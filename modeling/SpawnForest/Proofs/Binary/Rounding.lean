import Mathlib.Algebra.Order.Field.Power
import Mathlib.Data.Int.Log
import Mathlib.Data.Rat.Floor
import Mathlib.Tactic.FieldSimp
import Mathlib.Tactic.Linarith
import Mathlib.Tactic.Positivity
import Mathlib.Tactic.Ring
import SpawnForest.Binary.Format

/-!
# Rounding keeps the order

What is rounded is a fraction, and the result depends on its value alone. So the
value is taken as a rational number here, and the two facts that everything else
about sums and products of floating-point numbers rests on are said of it:
the greater of two values is not rounded to the smaller number
(`Format.round_mono`), and the value of a number is rounded to that number
(`Format.round_of_value`).

The place that a value is rounded at goes up with the value. Where two values
are rounded at the same place, whole numbers are compared; where the places
differ, the smaller value is at most twice the significand that the greater one
has at least, and its place is lower by one or more.
-/

namespace SpawnForest.Binary

variable {num den num' den' : Nat}

/-! ## Fractions -/

theorem scale_pos (m : Nat) (e : Int) : 0 < (scale m e).2 := by
  unfold scale
  split
  · exact Nat.one_pos
  · exact Nat.two_pow_pos _

theorem scale_value (m : Nat) (e : Int) :
    ((scale m e).1 : ℚ) / ((scale m e).2 : ℚ) = m * 2 ^ e := by
  unfold scale
  by_cases he : 0 ≤ e
  · rw [if_pos he]
    obtain ⟨k, rfl⟩ := Int.eq_ofNat_of_zero_le he
    simp
  · rw [if_neg he]
    obtain ⟨k, hk⟩ := Int.eq_ofNat_of_zero_le (show 0 ≤ -e by omega)
    obtain rfl : e = -(k : Int) := by omega
    simp [div_eq_mul_inv]

/-! ## Whole numbers -/

/-- The quotient, or the next number where the remainder is half of the denominator or more. -/
theorem nearestEven_cases (num den : Nat) :
    nearestEven num den = num / den ∧ 2 * (num % den) ≤ den ∨
      nearestEven num den = num / den + 1 ∧ den ≤ 2 * (num % den) := by
  unfold nearestEven
  dsimp only
  split
  · exact .inl ⟨rfl, by omega⟩
  · split
    · exact .inr ⟨rfl, by omega⟩
    · rcases Nat.mod_two_eq_zero_or_one (num / den) with h | h
      · exact .inl ⟨by omega, by omega⟩
      · exact .inr ⟨by omega, by omega⟩

/-- Halfway between two numbers it is the even one. -/
theorem nearestEven_of_half (h : 2 * (num % den) = den) :
    nearestEven num den = num / den + num / den % 2 := by
  unfold nearestEven
  dsimp only
  rw [if_neg (by omega), if_neg (by omega)]

theorem nearestEven_mono (hden : 0 < den) (hden' : 0 < den')
    (h : (num : ℚ) / den ≤ num' / den') : nearestEven num den ≤ nearestEven num' den' := by
  have hcross : num * den' ≤ num' * den := by
    rw [div_le_div_iff₀ (by positivity) (by positivity)] at h
    exact_mod_cast h
  have hnum := Nat.div_add_mod num den
  have hnum' := Nat.div_add_mod num' den'
  have hquotient : num / den ≤ num' / den' := by
    rw [Nat.le_div_iff_mul_le hden']
    refine Nat.le_of_mul_le_mul_right ?_ hden
    calc num / den * den' * den = den * (num / den) * den' := by ring
      _ ≤ num * den' := Nat.mul_le_mul_right _ (by omega)
      _ ≤ num' * den := hcross
  by_contra hless
  rcases nearestEven_cases num den with ⟨hcase, -⟩ | ⟨hup, hhigh⟩
  · rcases nearestEven_cases num' den' with ⟨hcase', -⟩ | ⟨hcase', -⟩ <;> omega
  rcases nearestEven_cases num' den' with ⟨hdown, hlow⟩ | ⟨hcase', -⟩
  swap
  · omega
  -- up and down at the same quotient: both lie halfway, where neither differs from the other
  have hsame : num / den = num' / den' := by omega
  have hremainder : num % den * den' ≤ num' % den' * den := by
    have hboth : den * (num / den) * den' + num % den * den' ≤
        den' * (num' / den') * den + num' % den' * den := by
      rw [← Nat.add_mul, ← Nat.add_mul, hnum, hnum']
      exact hcross
    have hwhole : den * (num / den) * den' = den' * (num' / den') * den := by
      rw [hsame]
      ring
    omega
  have habove := Nat.mul_le_mul_right den' hhigh
  have hbelow := Nat.mul_le_mul_right den hlow
  have hhalf : 2 * (num % den) = den :=
    Nat.eq_of_mul_eq_mul_right hden' (by linarith)
  have hhalf' : 2 * (num' % den') = den' :=
    Nat.eq_of_mul_eq_mul_right hden (by linarith)
  rw [nearestEven_of_half hhalf, nearestEven_of_half hhalf', hsame] at hless
  exact hless (Nat.le_refl _)

theorem nearestEven_one (n : Nat) : nearestEven n 1 = n := by
  rcases nearestEven_cases n 1 with ⟨h, -⟩ | ⟨-, h⟩
  · rw [h, Nat.div_one]
  · omega

theorem le_nearestEven {k : Nat} (hden : 0 < den) (h : (k : ℚ) ≤ num / den) :
    k ≤ nearestEven num den := by
  rw [← nearestEven_one k]
  exact nearestEven_mono Nat.one_pos hden (by simpa using h)

theorem nearestEven_le {k : Nat} (hden : 0 < den) (h : (num : ℚ) / den ≤ k) :
    nearestEven num den ≤ k := by
  rw [← nearestEven_one k]
  exact nearestEven_mono hden Nat.one_pos (by simpa using h)

namespace Format

variable (f : Format)

/-! ## Places -/

theorem two_pow_log2_le {n : Nat} (hn : 0 < n) : (2 : ℚ) ^ (n.log2 : Int) ≤ n := by
  exact_mod_cast Nat.log2_self_le hn.ne'

theorem lt_two_pow_log2 (n : Nat) : (n : ℚ) < 2 ^ (n.log2 + 1 : Int) := by
  exact_mod_cast Nat.lt_log2_self (n := n)

/-- The difference of the binary logarithms is at most one above that of the fraction. -/
theorem two_pow_sub_log2_le (hnum : 0 < num) (hden : 0 < den) :
    (2 : ℚ) ^ ((num.log2 : Int) - den.log2 - 1) ≤ num / den := by
  rw [le_div_iff₀ (by positivity)]
  calc (2 : ℚ) ^ ((num.log2 : Int) - den.log2 - 1) * den
      ≤ 2 ^ ((num.log2 : Int) - den.log2 - 1) * 2 ^ (den.log2 + 1 : Int) :=
        mul_le_mul_of_nonneg_left (lt_two_pow_log2 den).le (by positivity)
    _ = 2 ^ (num.log2 : Int) := by
        rw [← zpow_add₀ two_ne_zero]
        congr 1
        ring
    _ ≤ num := two_pow_log2_le hnum

/-- The difference of the binary logarithms is not below that of the fraction. -/
theorem lt_two_pow_sub_log2 (num : Nat) (hden : 0 < den) :
    (num : ℚ) / den < 2 ^ ((num.log2 : Int) - den.log2 + 1) := by
  rw [div_lt_iff₀ (by positivity)]
  calc (num : ℚ) < 2 ^ (num.log2 + 1 : Int) := lt_two_pow_log2 num
    _ = 2 ^ ((num.log2 : Int) - den.log2 + 1) * 2 ^ (den.log2 : Int) := by
        rw [← zpow_add₀ two_ne_zero]
        congr 1
        ring
    _ ≤ 2 ^ ((num.log2 : Int) - den.log2 + 1) * den :=
        mul_le_mul_of_nonneg_left (two_pow_log2_le hden) (by positivity)

/-- A fraction is compared with a power of two in whole numbers. -/
theorem mul_scale_le_iff (hden : 0 < den) (e : Int) :
    den * (scale num (-e)).2 ≤ (scale num (-e)).1 ↔ (2 : ℚ) ^ e ≤ num / den := by
  have hpos := scale_pos num (-e)
  have hfraction : ((scale num (-e)).1 : ℚ) = num * 2 ^ (-e) * (scale num (-e)).2 := by
    rw [← scale_value num (-e)]
    field_simp
  rw [← Nat.cast_le (α := ℚ), Nat.cast_mul, hfraction, mul_le_mul_iff_left₀ (by positivity),
    le_div_iff₀ (by positivity), zpow_neg, mul_comm (2 ^ e : ℚ),
    ← le_div_iff₀ (by positivity), div_eq_mul_inv]

theorem leadingExponent_eq (hnum : 0 < num) (hden : 0 < den) :
    leadingExponent num den = Int.log 2 ((num : ℚ) / den) := by
  have hvalue : (0 : ℚ) < num / den := by positivity
  have hstrict : ∀ {a b : Int}, (2 : ℚ) ^ a < 2 ^ b ↔ a < b :=
    zpow_lt_zpow_iff_right₀ one_lt_two
  have hmono : ∀ {a b : Int}, (2 : ℚ) ^ a ≤ 2 ^ b ↔ a ≤ b :=
    zpow_le_zpow_iff_right₀ one_lt_two
  have hguess := two_pow_sub_log2_le hnum hden
  have hover := lt_two_pow_sub_log2 num hden
  unfold leadingExponent
  dsimp only
  generalize (num.log2 : Int) - den.log2 = guess at hguess hover ⊢
  refine eq_of_forall_le_iff (fun e => ?_)
  have hlog := Int.zpow_le_iff_le_log (R := ℚ) Nat.one_lt_two hvalue (x := e)
  rw [Nat.cast_ofNat] at hlog
  rw [← hlog]
  -- the guess itself is tested, and one less is right if it is too much
  by_cases h : den * (scale num (-guess)).2 ≤ (scale num (-guess)).1
  · rw [if_pos h]
    rw [mul_scale_le_iff hden] at h
    exact ⟨fun he => (hmono.mpr he).trans h,
      fun he => Int.lt_add_one_iff.mp (hstrict.mp (he.trans_lt hover))⟩
  · rw [if_neg h]
    rw [mul_scale_le_iff hden, not_le] at h
    exact ⟨fun he => (hmono.mpr he).trans hguess,
      fun he => Int.le_sub_one_of_lt (hstrict.mp (he.trans_lt h))⟩

/-- The place that a value is rounded at. -/
def place (q : ℚ) : Int := max f.lowestExponent (Int.log 2 q - (f.precision - 1 : Nat))

theorem place_mono {q r : ℚ} (hq : 0 < q) (h : q ≤ r) : f.place q ≤ f.place r :=
  max_le_max_left _ (sub_le_sub_right (Int.log_mono_right hq h) _)

/-- A value has no more digits above its place than a significand. -/
theorem lt_place (q : ℚ) : q * 2 ^ (-f.place q) < 2 * 2 ^ (f.precision - 1) := by
  have hlog := Int.lt_zpow_succ_log_self (R := ℚ) Nat.one_lt_two q
  rw [Nat.cast_ofNat] at hlog
  calc q * 2 ^ (-f.place q) < 2 ^ (Int.log 2 q + 1) * 2 ^ (-f.place q) :=
        mul_lt_mul_of_pos_right hlog (by positivity)
    _ = 2 ^ (Int.log 2 q + 1 - f.place q) := by
        rw [← zpow_add₀ two_ne_zero]
        rfl
    _ ≤ 2 ^ (1 + (f.precision - 1 : Nat) : Int) := by
        refine zpow_le_zpow_right₀ one_le_two ?_
        have hplace : Int.log 2 q - (f.precision - 1 : Nat) ≤ f.place q := le_max_right _ _
        omega
    _ = 2 * 2 ^ (f.precision - 1) := by rw [zpow_add₀ two_ne_zero, zpow_one, zpow_natCast]

/-- Above the lowest place a value has as many digits as a significand. -/
theorem place_le {q : ℚ} (hq : 0 < q) (hplace : f.lowestExponent < f.place q) :
    2 ^ (f.precision - 1) ≤ q * 2 ^ (-f.place q) := by
  have hlog := Int.zpow_log_le_self (R := ℚ) Nat.one_lt_two hq
  rw [Nat.cast_ofNat] at hlog
  have hhigh : f.place q = Int.log 2 q - (f.precision - 1 : Nat) := by
    unfold place at hplace ⊢
    omega
  calc (2 : ℚ) ^ (f.precision - 1) = 2 ^ ((f.precision - 1 : Nat) : Int) := (zpow_natCast _ _).symm
    _ = 2 ^ Int.log 2 q * 2 ^ (-f.place q) := by
        rw [← zpow_add₀ two_ne_zero]
        congr 1
        omega
    _ ≤ q * 2 ^ (-f.place q) := mul_le_mul_of_nonneg_right hlog (by positivity)

/-! ## Rounding -/

/-- The ordinal of a significand at a place. -/
def ordinalAt (place : Int) (significand : Nat) : Nat :=
  (place - f.lowestExponent).toNat * 2 ^ (f.precision - 1) + significand

/-- Rounding takes the value apart at its place. -/
theorem round_eq (hnum : 0 < num) (hden : 0 < den) : ∃ n d : Nat, 0 < d ∧
    (n : ℚ) / d = num / den * 2 ^ (-f.place (num / den)) ∧
    f.round num den = min f.infinity (f.ordinalAt (f.place (num / den)) (nearestEven n d)) := by
  refine ⟨(scale num (-f.place (num / den))).1, den * (scale num (-f.place (num / den))).2,
    Nat.mul_pos hden (scale_pos _ _), ?_, ?_⟩
  · rw [Nat.cast_mul, mul_comm (den : ℚ), ← div_div, scale_value]
    ring
  · unfold round
    rw [if_neg hnum.ne', leadingExponent_eq hnum hden]
    rfl

theorem round_zero (den : Nat) : f.round 0 den = 0 := if_pos rfl

theorem round_le_infinity (num den : Nat) : f.round num den ≤ f.infinity := by
  unfold round
  split
  · exact Nat.zero_le _
  · exact Nat.min_le_left _ _

/-- The greater of two values is not rounded to the smaller number. -/
theorem round_mono (hden : 0 < den) (hden' : 0 < den')
    (h : (num : ℚ) / den ≤ num' / den') : f.round num den ≤ f.round num' den' := by
  rcases Nat.eq_zero_or_pos num with rfl | hnum
  · rw [round_zero]
    exact Nat.zero_le _
  have hq : (0 : ℚ) < num / den := by positivity
  have hnum' : 0 < num' := by
    by_contra hzero
    obtain rfl : num' = 0 := by omega
    rw [Nat.cast_zero, zero_div] at h
    exact absurd hq (not_lt.mpr h)
  obtain ⟨n, d, hd, hvalue, hround⟩ := f.round_eq hnum hden
  obtain ⟨n', d', hd', hvalue', hround'⟩ := f.round_eq hnum' hden'
  rw [hround, hround']
  refine min_le_min_left _ ?_
  rcases eq_or_lt_of_le (f.place_mono hq h) with hsame | hless
  · have hscaled : (n : ℚ) / d ≤ n' / d' := by
      rw [hvalue, hvalue', hsame]
      exact mul_le_mul_of_nonneg_right h (by positivity)
    rw [hsame]
    exact Nat.add_le_add_left (nearestEven_mono hd hd' hscaled) _
  · have hlowest : f.lowestExponent ≤ f.place (num / den) := le_max_left _ _
    have hfew : nearestEven n d ≤ 2 * 2 ^ (f.precision - 1) :=
      nearestEven_le hd (by
        rw [hvalue]
        exact_mod_cast (f.lt_place _).le)
    have hmany : 2 ^ (f.precision - 1) ≤ nearestEven n' d' :=
      le_nearestEven hd' (by
        rw [hvalue']
        exact_mod_cast f.place_le (hq.trans_le h) (hlowest.trans_lt hless))
    have hplaces : (f.place (num / den) - f.lowestExponent).toNat + 1 ≤
        (f.place (num' / den') - f.lowestExponent).toNat := by omega
    have hsteps := Nat.mul_le_mul_right (2 ^ (f.precision - 1)) hplaces
    unfold ordinalAt
    linarith

/-! ## The values of numbers -/

/-- The value of a finite number. -/
def value (ordinal : Nat) : ℚ := (f.parts ordinal).1 * 2 ^ (f.parts ordinal).2

variable {f}

theorem value_nonneg (ordinal : Nat) : 0 ≤ f.value ordinal := by
  unfold value
  positivity

theorem fraction_pos (ordinal : Nat) : 0 < (f.fraction ordinal).2 := scale_pos _ _

theorem fraction_value (ordinal : Nat) :
    ((f.fraction ordinal).1 : ℚ) / ((f.fraction ordinal).2 : ℚ) = f.value ordinal :=
  scale_value _ _

variable (f) in
/-- The significand and the place of an ordinal. -/
theorem parts_spec (ordinal : Nat) : ∃ m e, f.parts ordinal = (m, e) ∧
    f.ordinalAt e m = ordinal ∧ f.lowestExponent ≤ e ∧ m < 2 * 2 ^ (f.precision - 1) ∧
    (e = f.lowestExponent ∨ 2 ^ (f.precision - 1) ≤ m) := by
  have hstep : 0 < 2 ^ (f.precision - 1) := Nat.two_pow_pos _
  unfold parts ordinalAt
  simp only [Nat.pow_eq]
  generalize 2 ^ (f.precision - 1) = step at hstep ⊢
  by_cases hsmall : ordinal < step
  · rw [if_pos hsmall]
    exact ⟨_, _, rfl, by simp, le_refl _, by omega, .inl rfl⟩
  · rw [if_neg hsmall]
    have hquotient : 0 < ordinal / step := Nat.div_pos (by omega) hstep
    have hmod := Nat.mod_lt ordinal hstep
    refine ⟨_, _, rfl, ?_, by omega, by omega, .inr (by omega)⟩
    rw [add_sub_cancel_left, Int.toNat_natCast]
    calc (ordinal / step - 1) * step + (step + ordinal % step)
        = (ordinal / step - 1 + 1) * step + ordinal % step := by ring
      _ = step * (ordinal / step) + ordinal % step := by
          rw [Nat.sub_add_cancel hquotient, Nat.mul_comm]
      _ = ordinal := Nat.div_add_mod _ _

/-- A significand is rounded at its own place. -/
theorem place_eq {m : Nat} {e : Int} (hm : 0 < m) (hlow : f.lowestExponent ≤ e)
    (hfew : m < 2 * 2 ^ (f.precision - 1))
    (hmany : e = f.lowestExponent ∨ 2 ^ (f.precision - 1) ≤ m) :
    f.place (m * 2 ^ e : ℚ) = e := by
  have hpos : (0 : ℚ) < m * 2 ^ e := by positivity
  have hbelow : (m * 2 ^ e : ℚ) < (2 : ℕ) ^ (e + (f.precision - 1 : Nat) + 1) := by
    rw [Nat.cast_ofNat, add_assoc, add_comm e, zpow_add₀ two_ne_zero]
    refine mul_lt_mul_of_pos_right ?_ (by positivity)
    rw [zpow_add₀ two_ne_zero, zpow_natCast, zpow_one, mul_comm]
    exact_mod_cast hfew
  rw [Int.lt_zpow_iff_log_lt Nat.one_lt_two hpos] at hbelow
  have habove : e = f.lowestExponent ∨ e + (f.precision - 1 : Nat) ≤ Int.log 2 (m * 2 ^ e : ℚ) := by
    refine hmany.imp_right (fun hmany => ?_)
    rw [← Int.zpow_le_iff_le_log Nat.one_lt_two hpos, Nat.cast_ofNat, add_comm,
      zpow_add₀ two_ne_zero, zpow_natCast]
    refine mul_le_mul_of_nonneg_right ?_ (by positivity)
    exact_mod_cast hmany
  unfold place
  omega

/-- The value of a number is rounded to that number. -/
theorem round_of_value (hden : 0 < den) {ordinal : Nat} (hfinite : ordinal ≤ f.infinity)
    (h : (num : ℚ) / den = f.value ordinal) : f.round num den = ordinal := by
  obtain ⟨m, e, hparts, hordinal, hlow, hfew, hmany⟩ := f.parts_spec ordinal
  rw [value, hparts] at h
  dsimp only at h
  rcases Nat.eq_zero_or_pos m with rfl | hm
  · -- zero lies at the lowest place
    have hzero : num = 0 := by
      rw [Nat.cast_zero, zero_mul, div_eq_zero_iff] at h
      exact_mod_cast h.resolve_right (by positivity)
    have hlowest : e = f.lowestExponent :=
      hmany.resolve_right (fun hmany => absurd hmany (not_le.mpr (Nat.two_pow_pos _)))
    rw [hzero, round_zero, ← hordinal, hlowest]
    simp [ordinalAt]
  · have hnum : 0 < num := by
      by_contra hzero
      obtain rfl : num = 0 := by omega
      rw [Nat.cast_zero, zero_div] at h
      have hpos : (0 : ℚ) < m * 2 ^ e := by positivity
      exact hpos.ne h
    obtain ⟨n, d, hd, hvalue, hround⟩ := f.round_eq hnum hden
    rw [h, place_eq hm hlow hfew hmany, mul_assoc, ← zpow_add₀ two_ne_zero, add_neg_cancel,
      zpow_zero, mul_one] at hvalue
    have hsignificand : nearestEven n d = m :=
      Nat.le_antisymm (nearestEven_le hd hvalue.le) (le_nearestEven hd hvalue.ge)
    rw [hround, h, place_eq hm hlow hfew hmany, hsignificand, hordinal]
    exact Nat.min_eq_right hfinite

/-- The order of finite numbers is that of their values. -/
theorem value_le_value_iff {a b : Nat} (ha : a ≤ f.infinity) (hb : b ≤ f.infinity) :
    f.value a ≤ f.value b ↔ a ≤ b := by
  have hmono : ∀ {a b : Nat}, a ≤ f.infinity → b ≤ f.infinity → f.value a ≤ f.value b → a ≤ b := by
    intro a b ha hb h
    rw [← fraction_value, ← fraction_value b] at h
    have hround := f.round_mono (fraction_pos a) (fraction_pos b) h
    rwa [round_of_value (fraction_pos a) ha (fraction_value a),
      round_of_value (fraction_pos b) hb (fraction_value b)] at hround
  refine ⟨hmono ha hb, fun h => ?_⟩
  rcases le_total (f.value a) (f.value b) with hle | hle
  · exact hle
  · rw [Nat.le_antisymm h (hmono hb ha hle)]

theorem value_zero : f.value 0 = 0 := by
  simp [value, parts]

theorem eq_zero_of_value_le {a : Nat} (ha : a ≤ f.infinity) (h : f.value a ≤ 0) : a = 0 :=
  Nat.le_zero.mp ((value_le_value_iff ha (Nat.zero_le _)).mp (h.trans_eq value_zero.symm))

/-! ## Products and quotients -/

theorem product_eq (a b : Nat) : f.product a b =
    f.round ((f.fraction a).1 * (f.fraction b).1) ((f.fraction a).2 * (f.fraction b).2) := rfl

theorem quotient_eq (a b : Nat) : f.quotient a b =
    f.round ((f.fraction a).1 * (f.fraction b).2) ((f.fraction a).2 * (f.fraction b).1) := rfl

theorem fraction_mul (a b : Nat) :
    (((f.fraction a).1 * (f.fraction b).1 : ℕ) : ℚ) / ((f.fraction a).2 * (f.fraction b).2 : ℕ) =
      f.value a * f.value b := by
  rw [Nat.cast_mul, Nat.cast_mul, mul_div_mul_comm, fraction_value, fraction_value]

/-- A product goes up with the product of the values. -/
theorem product_le_product {a b c d : Nat} (h : f.value a * f.value b ≤ f.value c * f.value d) :
    f.product a b ≤ f.product c d := by
  rw [product_eq, product_eq]
  refine f.round_mono (Nat.mul_pos (fraction_pos a) (fraction_pos b))
    (Nat.mul_pos (fraction_pos c) (fraction_pos d)) ?_
  rwa [fraction_mul, fraction_mul]

/-- A product with a factor of one or less does not lead above the other factor. -/
theorem product_le {a b : Nat} (ha : a ≤ f.infinity) (h : f.value b ≤ 1) : f.product a b ≤ a := by
  have hround : f.product a b ≤ f.round (f.fraction a).1 (f.fraction a).2 := by
    rw [product_eq]
    refine f.round_mono (Nat.mul_pos (fraction_pos a) (fraction_pos b)) (fraction_pos a) ?_
    rw [fraction_mul, fraction_value]
    exact mul_le_of_le_one_right (value_nonneg a) h
  rwa [round_of_value (fraction_pos a) ha (fraction_value a)] at hround

/-- A quotient goes up with the dividend. -/
theorem quotient_le_quotient {a c b : Nat} (hb : 0 < (f.fraction b).1) (h : f.value a ≤ f.value c) :
    f.quotient a b ≤ f.quotient c b := by
  rw [quotient_eq, quotient_eq]
  refine f.round_mono (Nat.mul_pos (fraction_pos a) hb) (Nat.mul_pos (fraction_pos c) hb) ?_
  rw [Nat.cast_mul, Nat.cast_mul, Nat.cast_mul, Nat.cast_mul, mul_div_mul_comm, mul_div_mul_comm,
    fraction_value, fraction_value]
  exact mul_le_mul_of_nonneg_right h (by positivity)

end Format

end SpawnForest.Binary
