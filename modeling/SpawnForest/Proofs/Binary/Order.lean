import SpawnForest.Binary.Single
import SpawnForest.Proofs.Binary.Rounding

/-!
# Sums and products in order

A sum is computed exactly and rounded once, so it goes up with either of its
terms (`Single.add_le_add`), and adding something that is not negative does not
lead below what was there (`Single.le_add`). This holds whatever is lost in
rounding, and it holds of sums that are too great for a finite number as well.
The same goes for products and quotients of numbers that are not negative.
-/

namespace SpawnForest.Single

open Binary (Format single)

variable {x y z b : Single}

/-! ## Places -/

theorem ordinal_ofOrdinal (negative : Bool) {n : Nat} (h : n < 0x80000000) :
    (ofOrdinal negative n).ordinal = n := by
  unfold ofOrdinal ordinal
  dsimp only
  rw [UInt32.toNat_ofNat_of_lt' (by cases negative <;> simp [UInt32.size] <;> omega)]
  cases negative <;> simp
  all_goals omega

theorem negative_ofOrdinal (negative : Bool) {n : Nat} (h : n < 0x80000000) :
    (ofOrdinal negative n).negative = negative := by
  unfold ofOrdinal Single.negative
  dsimp only
  rw [UInt32.toNat_ofNat_of_lt' (by cases negative <;> simp [UInt32.size] <;> omega)]
  cases negative <;> simp
  exact h

theorem position_ofOrdinal (negative : Bool) {n : Nat} (h : n < 0x80000000) :
    (ofOrdinal negative n).position = if negative then -(n : Int) else n := by
  rw [position, negative_ofOrdinal negative h, ordinal_ofOrdinal negative h]

theorem lt_of_le_infinity {n : Nat} (h : n ≤ single.infinity) : n < 0x80000000 :=
  Nat.lt_of_le_of_lt h (by decide)

theorem isUndefined_ofOrdinal (negative : Bool) {n : Nat} (h : n ≤ single.infinity) :
    (ofOrdinal negative n).isUndefined = false := by
  rw [isUndefined, ordinal_ofOrdinal negative (lt_of_le_infinity h)]
  exact decide_eq_false (not_lt.mpr h)

theorem le_iff : x.le y = true ↔
    x.isUndefined = false ∧ y.isUndefined = false ∧ x.position ≤ y.position := by
  simp [le, and_assoc]

theorem lt_iff : x.lt y = true ↔
    x.isUndefined = false ∧ y.isUndefined = false ∧ x.position < y.position := by
  simp [lt, and_assoc]

theorem le_trans (hxy : x.le y = true) (hyz : y.le z = true) : x.le z = true := by
  rw [le_iff] at hxy hyz ⊢
  exact ⟨hxy.1, hyz.2.1, hxy.2.2.trans hyz.2.2⟩

/-- Of two numbers one is less than the other, or the other is not greater. -/
theorem le_of_not_lt (hx : x.isUndefined = false) (hy : y.isUndefined = false)
    (h : y.lt x = false) : x.le y = true := by
  refine le_iff.mpr ⟨hx, hy, ?_⟩
  by_contra hless
  rw [lt_iff.mpr ⟨hy, hx, not_le.mp hless⟩] at h
  cases h

theorem lt_of_not_le (hx : x.isUndefined = false) (hy : y.isUndefined = false)
    (h : y.le x = false) : x.lt y = true := by
  refine lt_iff.mpr ⟨hx, hy, ?_⟩
  by_contra hle
  rw [le_iff.mpr ⟨hy, hx, not_lt.mp hle⟩] at h
  cases h

theorem isFinite_iff : x.isFinite = true ↔ x.ordinal < single.infinity := decide_eq_true_iff

theorem isUndefined_of_isFinite (h : x.isFinite = true) : x.isUndefined = false :=
  decide_eq_false (not_lt.mpr (isFinite_iff.mp h).le)

theorem isInfinite_of_isFinite (h : x.isFinite = true) : x.isInfinite = false :=
  beq_eq_false_iff_ne.mpr (isFinite_iff.mp h).ne

theorem isUndefined_of_infinite (h : x.ordinal = single.infinity) : x.isUndefined = false :=
  decide_eq_false (h ▸ lt_irrefl _)

theorem isInfinite_of_infinite (h : x.ordinal = single.infinity) : x.isInfinite = true :=
  beq_iff_eq.mpr h

/-- A number is finite, infinite or undefined. -/
theorem ordinal_of_not_isFinite (h : x.isFinite = false) (hdefined : x.isUndefined = false) :
    x.ordinal = single.infinity := by
  have hge : ¬x.ordinal < single.infinity := of_decide_eq_false h
  have hle : ¬single.infinity < x.ordinal := of_decide_eq_false hdefined
  omega

/-! ## Values -/

/-- The value of a finite number. -/
def value (x : Single) : ℚ :=
  if x.negative then -single.value x.ordinal else single.value x.ordinal

theorem exact_value (x : Single) : ((x.exact).1 : ℚ) * 2 ^ (x.exact).2 = x.value := by
  unfold exact value Format.value
  dsimp only
  split <;> simp

theorem value_zero : zero.value = 0 := Format.value_zero

theorem value_le_value_iff (hx : x.isFinite = true) (hy : y.isFinite = true) :
    x.value ≤ y.value ↔ x.position ≤ y.position := by
  have hx := (isFinite_iff.mp hx).le
  have hy := (isFinite_iff.mp hy).le
  have hx0 := Format.value_nonneg (f := single) x.ordinal
  have hy0 := Format.value_nonneg (f := single) y.ordinal
  unfold value position
  cases x.negative <;> cases y.negative <;>
    simp only [Bool.false_eq_true, if_false, if_true, neg_le_neg_iff, Nat.cast_le,
      Format.value_le_value_iff hx hy, Format.value_le_value_iff hy hx]
  · constructor
    · intro h
      have hx' := Format.eq_zero_of_value_le hx (h.trans (neg_nonpos.mpr hy0))
      have hy' := Format.eq_zero_of_value_le hy (by linarith)
      omega
    · intro h
      have hx' : x.ordinal = 0 := by omega
      have hy' : y.ordinal = 0 := by omega
      rw [hx', hy', Format.value_zero, neg_zero]
  · constructor
    · intro _
      omega
    · intro _
      linarith

/-! ## Rounding with a sign -/

/-- The sign of what is rounded becomes the sign of the number. -/
theorem ofExact_eq (zeroNegative : Bool) (m e : Int) : ∃ sign n d, 0 < d ∧
    ofExact zeroNegative m e = ofOrdinal sign (single.round n d) ∧
    (m * 2 ^ e : ℚ) = if sign then -((n : ℚ) / d) else (n : ℚ) / d := by
  unfold ofExact
  by_cases hm : m = 0
  · rw [if_pos hm]
    exact ⟨zeroNegative, 0, 1, Nat.one_pos, by rw [Format.round_zero], by simp [hm]⟩
  · rw [if_neg hm]
    have habs : ((m.natAbs : ℕ) : ℚ) = |(m : ℚ)| := by
      rw [← Int.cast_natCast, Int.natCast_natAbs, Int.cast_abs]
    refine ⟨decide (m < 0), (Binary.scale m.natAbs e).1, (Binary.scale m.natAbs e).2,
      Binary.scale_pos m.natAbs e, rfl, ?_⟩
    rw [Binary.scale_value, habs]
    by_cases hneg : m < 0
    · rw [decide_eq_true hneg, if_pos rfl, abs_of_neg (by exact_mod_cast hneg)]
      ring
    · rw [decide_eq_false hneg, abs_of_nonneg (by exact_mod_cast not_lt.mp hneg)]
      rfl

theorem isUndefined_ofExact (zeroNegative : Bool) (m e : Int) :
    (ofExact zeroNegative m e).isUndefined = false := by
  obtain ⟨sign, n, d, -, h, -⟩ := ofExact_eq zeroNegative m e
  rw [h, isUndefined_ofOrdinal sign (single.round_le_infinity n d)]

theorem round_eq_zero {n d : Nat} (hd : 0 < d) (h : (n : ℚ) / d = 0) : single.round n d = 0 := by
  rw [div_eq_zero_iff, Nat.cast_eq_zero, Nat.cast_eq_zero] at h
  rw [h.resolve_right hd.ne', Format.round_zero]

/-- The greater of two values is not rounded to the smaller number. -/
theorem position_ofExact_mono {s s' : Bool} {m e m' e' : Int}
    (h : (m * 2 ^ e : ℚ) ≤ m' * 2 ^ e') :
    (ofExact s m e).position ≤ (ofExact s' m' e').position := by
  obtain ⟨sign, n, d, hd, hround, hvalue⟩ := ofExact_eq s m e
  obtain ⟨sign', n', d', hd', hround', hvalue'⟩ := ofExact_eq s' m' e'
  have hlt := lt_of_le_infinity (single.round_le_infinity n d)
  have hlt' := lt_of_le_infinity (single.round_le_infinity n' d')
  have hn : (0 : ℚ) ≤ n / d := by positivity
  have hn' : (0 : ℚ) ≤ n' / d' := by positivity
  rw [hround, hround', position_ofOrdinal sign hlt, position_ofOrdinal sign' hlt']
  rw [hvalue, hvalue'] at h
  cases sign <;> cases sign' <;>
    simp only [Bool.false_eq_true, if_false, if_true, neg_le_neg_iff] at h ⊢
  · exact_mod_cast single.round_mono hd hd' h
  · -- a value that is not negative lies below one that is not positive: both are zero
    rw [round_eq_zero hd (by linarith), round_eq_zero hd' (by linarith)]
    rfl
  · omega
  · have := single.round_mono hd' hd h
    omega

/-- The value of a finite number is rounded to its place. -/
theorem position_ofExact_of_value {s : Bool} {m e : Int} (hx : x.isFinite = true)
    (h : (m * 2 ^ e : ℚ) = x.value) : (ofExact s m e).position = x.position := by
  obtain ⟨sign, n, d, hd, hround, hvalue⟩ := ofExact_eq s m e
  have hfinite := (isFinite_iff.mp hx).le
  rw [hround, position_ofOrdinal sign (lt_of_le_infinity (single.round_le_infinity n d)), position]
  rw [hvalue, value] at h
  have hn : (0 : ℚ) ≤ n / d := by positivity
  have hx0 := Format.value_nonneg (f := single) x.ordinal
  by_cases hsame : sign = x.negative
  · have hmagnitude : (n : ℚ) / d = single.value x.ordinal := by
      rw [hsame] at h
      cases hneg : x.negative with
      | true => simpa [hneg] using h
      | false => simpa [hneg] using h
    rw [hsame, Format.round_of_value hd hfinite hmagnitude]
  · -- the signs differ, so that there is nothing to have a sign
    have hmagnitude : (n : ℚ) / d = -single.value x.ordinal := by
      cases sign <;> cases hneg : x.negative <;> rw [hneg] at h hsame
      · exact absurd rfl hsame
      · simpa using h
      · simpa [neg_eq_iff_eq_neg] using h
      · exact absurd rfl hsame
    have hzero : x.ordinal = 0 := Format.eq_zero_of_value_le hfinite (by linarith)
    rw [hzero, round_eq_zero hd (by linarith)]
    simp

/-! ## Sums -/

/-- A sum of finite numbers is computed exactly and rounded once. -/
theorem add_eq_ofExact (hx : x.isFinite = true) (hy : y.isFinite = true) :
    ∃ s m e, x + y = ofExact s m e ∧ (m * 2 ^ e : ℚ) = x.value + y.value := by
  have hsum : x + y = ofExact (x.negative && y.negative)
      (x.exact.1 * Nat.pow 2 (x.exact.2 - min x.exact.2 y.exact.2).toNat +
        y.exact.1 * Nat.pow 2 (y.exact.2 - min x.exact.2 y.exact.2).toNat)
      (min x.exact.2 y.exact.2) := by
    have hadd : x + y = x.add y := rfl
    rw [hadd, add, isUndefined_of_isFinite hx, isUndefined_of_isFinite hy,
      isInfinite_of_isFinite hx, isInfinite_of_isFinite hy]
    rfl
  refine ⟨_, _, _, hsum, ?_⟩
  have hshift : ∀ {e least : Int}, least ≤ e →
      ((Nat.pow 2 (e - least).toNat : ℕ) : ℚ) * 2 ^ least = 2 ^ e := by
    intro e least hle
    rw [Nat.pow_eq, Nat.cast_pow, Nat.cast_ofNat, ← zpow_natCast, Int.toNat_of_nonneg (by omega),
      ← zpow_add₀ two_ne_zero, sub_add_cancel]
  rw [← exact_value x, ← exact_value y, Int.cast_add, Int.cast_mul, Int.cast_mul, add_mul,
    mul_assoc, mul_assoc, Int.cast_natCast, Int.cast_natCast, hshift (min_le_left _ _),
    hshift (min_le_right _ _)]

theorem isUndefined_add (hx : x.isFinite = true) (hy : y.isFinite = true) :
    (x + y).isUndefined = false := by
  obtain ⟨s, m, e, h, -⟩ := add_eq_ofExact hx hy
  rw [h, isUndefined_ofExact]

/-- A sum goes up with its first term. -/
theorem add_le_add (hx : x.isFinite = true) (hy : y.isFinite = true) (hz : z.isFinite = true)
    (h : x.le y = true) : (x + z).le (y + z) = true := by
  obtain ⟨s, m, e, hsum, hvalue⟩ := add_eq_ofExact hx hz
  obtain ⟨s', m', e', hsum', hvalue'⟩ := add_eq_ofExact hy hz
  refine le_iff.mpr ⟨isUndefined_add hx hz, isUndefined_add hy hz, ?_⟩
  rw [hsum, hsum']
  refine position_ofExact_mono ?_
  rw [hvalue, hvalue']
  linarith [(value_le_value_iff hx hy).mpr (le_iff.mp h).2.2]

theorem add_of_infinite (hx : x.ordinal = single.infinity) (hy : y.isUndefined = false)
    (hsame : y.ordinal = single.infinity → x.negative = y.negative) : x + y = x := by
  have hadd : x + y = x.add y := rfl
  rw [hadd, add, isUndefined_of_infinite hx, hy, isInfinite_of_infinite hx]
  cases hyinf : y.isInfinite with
  | true => simp [hsame (beq_iff_eq.mp hyinf)]
  | false => rfl

theorem add_of_isFinite_of_infinite (hx : x.isFinite = true) (hy : y.ordinal = single.infinity) :
    x + y = y := by
  have hadd : x + y = x.add y := rfl
  rw [hadd, add, isUndefined_of_isFinite hx, isUndefined_of_infinite hy,
    isInfinite_of_isFinite hx, isInfinite_of_infinite hy]
  rfl

theorem position_lt_infinity (h : x.isFinite = true) :
    -(single.infinity : Int) < x.position ∧ x.position < single.infinity := by
  have h := isFinite_iff.mp h
  unfold position
  split <;> omega

/-- An infinite number above a finite one is the positive one. -/
theorem negative_of_le (hb : b.isFinite = true) (h : b.le x = true)
    (hx : x.ordinal = single.infinity) : x.negative = false := by
  have hlow := (position_lt_infinity hb).1
  have hle := (le_iff.mp h).2.2
  rw [position.eq_def x, hx] at hle
  cases hneg : x.negative with
  | false => rfl
  | true =>
      rw [hneg, if_pos rfl] at hle
      omega

/-- What is not negative does not lead below what was there. -/
theorem le_add (hb : b.isFinite = true) (hx : zero.le x = true) (hy : b.le y = true) :
    b.le (x + y) = true := by
  have hxdefined := (le_iff.mp hx).2.1
  have hydefined := (le_iff.mp hy).2.1
  cases hxfinite : x.isFinite with
  | false =>
      have hxinf := ordinal_of_not_isFinite hxfinite hxdefined
      have hpositive := negative_of_le (by decide) hx hxinf
      have hsame : y.ordinal = single.infinity → x.negative = y.negative := fun hyinf =>
        hpositive.trans (negative_of_le hb hy hyinf).symm
      rw [add_of_infinite hxinf hydefined hsame]
      refine le_iff.mpr ⟨isUndefined_of_isFinite hb, hxdefined, ?_⟩
      rw [position.eq_def x, hpositive, hxinf]
      exact (position_lt_infinity hb).2.le
  | true =>
      cases hyfinite : y.isFinite with
      | false =>
          rw [add_of_isFinite_of_infinite hxfinite (ordinal_of_not_isFinite hyfinite hydefined)]
          exact hy
      | true =>
          obtain ⟨s, m, e, hsum, hvalue⟩ := add_eq_ofExact hxfinite hyfinite
          refine le_iff.mpr ⟨isUndefined_of_isFinite hb, isUndefined_add hxfinite hyfinite, ?_⟩
          have hxvalue := (value_le_value_iff (by decide) hxfinite).mpr (le_iff.mp hx).2.2
          have hyvalue := (value_le_value_iff hb hyfinite).mpr (le_iff.mp hy).2.2
          rw [hsum, ← position_ofExact_of_value (s := false) hb (exact_value b)]
          refine position_ofExact_mono ?_
          rw [hvalue, exact_value]
          rw [value_zero] at hxvalue
          linarith

/-! ## Products and quotients of numbers that are not negative -/

section

variable {n m : Nat}

theorem isFinite_ofOrdinal (negative : Bool) (h : n < single.infinity) :
    (ofOrdinal negative n).isFinite = true :=
  isFinite_iff.mpr (by rwa [ordinal_ofOrdinal negative (lt_of_le_infinity h.le)])

theorem le_ofOrdinal (hm : m ≤ single.infinity) (h : n ≤ m) :
    (ofOrdinal false n).le (ofOrdinal false m) = true := by
  have hn := h.trans hm
  refine le_iff.mpr ⟨isUndefined_ofOrdinal _ hn, isUndefined_ofOrdinal _ hm, ?_⟩
  rw [position_ofOrdinal _ (lt_of_le_infinity hn), position_ofOrdinal _ (lt_of_le_infinity hm)]
  simpa using h

theorem ofOrdinal_mul (hn : n < single.infinity) (hm : m < single.infinity) :
    ofOrdinal false n * ofOrdinal false m = ofOrdinal false (single.product n m) := by
  have hmul : ofOrdinal false n * ofOrdinal false m = mul (ofOrdinal false n) (ofOrdinal false m) :=
    rfl
  have hnfinite := isFinite_ofOrdinal false hn
  have hmfinite := isFinite_ofOrdinal false hm
  have hnplace := lt_of_le_infinity hn.le
  have hmplace := lt_of_le_infinity hm.le
  rw [hmul, mul, isUndefined_of_isFinite hnfinite, isUndefined_of_isFinite hmfinite,
    isInfinite_of_isFinite hnfinite, isInfinite_of_isFinite hmfinite,
    negative_ofOrdinal false hnplace, negative_ofOrdinal false hmplace,
    ordinal_ofOrdinal false hnplace, ordinal_ofOrdinal false hmplace]
  rfl

theorem ofOrdinal_div (hn : n < single.infinity) (hm : m < single.infinity) (hpos : 0 < m) :
    ofOrdinal false n / ofOrdinal false m = ofOrdinal false (single.quotient n m) := by
  have hdiv : ofOrdinal false n / ofOrdinal false m = div (ofOrdinal false n) (ofOrdinal false m) :=
    rfl
  have hnfinite := isFinite_ofOrdinal false hn
  have hmfinite := isFinite_ofOrdinal false hm
  have hnplace := lt_of_le_infinity hn.le
  have hmplace := lt_of_le_infinity hm.le
  have hzero : (ofOrdinal false m).isZero = false := by
    rw [isZero, ordinal_ofOrdinal false hmplace]
    exact beq_eq_false_iff_ne.mpr hpos.ne'
  rw [hdiv, div, isUndefined_of_isFinite hnfinite, isUndefined_of_isFinite hmfinite,
    isInfinite_of_isFinite hnfinite, isInfinite_of_isFinite hmfinite, hzero,
    negative_ofOrdinal false hnplace, negative_ofOrdinal false hmplace,
    ordinal_ofOrdinal false hnplace, ordinal_ofOrdinal false hmplace]
  rfl

end

end SpawnForest.Single
