import SpawnForest.Proofs.Binary.Order
import SpawnForest.Proofs.Random.Draws

/-!
# Draws of single-precision numbers keep to their range

What a caller may rely on, whatever the source (`KeepsRange`): an empty range
yields its lower end, and any other draw lies between the ends. For the
generator of a map this takes an argument (`Pcg.keepsRange`), for the width of
the range, the scale and the draw are all rounded. The scale is taken down until
the greatest draw fits, and rounding keeps the order, so every other draw fits
with it.
-/

namespace SpawnForest

/-- Every draw of a single-precision number lies in its range, the lower end being the draw from an
empty one. -/
def KeepsRange (σ : Type) [RandomSource σ] : Prop :=
  ∀ (lo hi draw : Single) (source rest : σ),
    RandomSource.singleIn lo hi source = .ok (draw, rest) →
      (hi.le lo = true → draw = lo) ∧ (lo.lt hi = true → lo.le draw = true ∧ draw.le hi = true)

namespace Pcg

open Binary (Format single)

/-! ## The scale -/

theorem fittingScale_le (lo hi : Single) (ordinal : Nat) :
    fittingScale lo hi ordinal ≤ ordinal := by
  induction ordinal with
  | zero => exact Nat.le_refl _
  | succ ordinal ih =>
      rw [fittingScale]
      split
      · exact Nat.le_succ_of_le ih
      · exact Nat.le_refl _

/-- At the scale found the greatest draw does not exceed the upper end, unless the scale is zero. -/
theorem lt_fittingScale (lo hi : Single) (ordinal : Nat) : fittingScale lo hi ordinal = 0 ∨
    hi.lt (Single.ofOrdinal false (fittingScale lo hi ordinal) * belowOne + lo) = false := by
  induction ordinal with
  | zero => exact .inl rfl
  | succ ordinal ih =>
      rw [fittingScale]
      cases hfits : hi.lt (Single.ofOrdinal false (ordinal + 1) * belowOne + lo) with
      | true =>
          rw [if_pos rfl]
          exact ih
      | false =>
          rw [if_neg Bool.false_ne_true]
          exact .inr hfits

/-! ## The fraction of a range -/

theorem ordinal_belowOne : belowOne.ordinal = 0x3f7ffffe := by decide +kernel

theorem belowOne_eq : belowOne = Single.ofOrdinal false belowOne.ordinal := by decide +kernel

theorem belowOne_lt : belowOne.ordinal < single.infinity := by decide +kernel

theorem value_belowOne_le : single.value belowOne.ordinal ≤ 1 := by
  rw [ordinal_belowOne]
  norm_num [Format.value, Format.parts, single]

/-- A fraction below one does not exceed the greatest one there is. -/
theorem exists_fraction {n : Nat} (h : n < 0x800000) : ∃ unit ≤ belowOne.ordinal,
    Single.ofNat n / Single.ofNat 0x800000 = Single.ofOrdinal false unit := by
  have hround : single.round n 1 ≤ 0x4afffffe := by
    have hgreatest : single.round 0x7fffff 1 = 0x4afffffe := by decide +kernel
    rw [← hgreatest]
    refine single.round_mono Nat.one_pos Nat.one_pos ?_
    rw [Nat.cast_one, div_one, div_one, Nat.cast_le]
    omega
  have hfinite : single.round n 1 < single.infinity := hround.trans_lt (by decide)
  refine ⟨single.quotient (single.round n 1) (single.ofNat 0x800000), ?_,
    Single.ofOrdinal_div hfinite (by decide +kernel) (by decide +kernel)⟩
  have hgreatest : single.quotient 0x4afffffe (single.ofNat 0x800000) = belowOne.ordinal := by
    decide +kernel
  rw [← hgreatest]
  exact Format.quotient_le_quotient (by decide +kernel)
    ((Format.value_le_value_iff hfinite.le (by decide)).mpr hround)

/-! ## The ends of a range -/

section

variable {lo hi : Single} {unit k : Nat}

theorem product_belowOne_lt (hk : k < single.infinity) :
    single.product k belowOne.ordinal < single.infinity :=
  (Format.product_le hk.le value_belowOne_le).trans_lt hk

theorem mul_belowOne (hk : k < single.infinity) : Single.ofOrdinal false k * belowOne =
    Single.ofOrdinal false (single.product k belowOne.ordinal) := by
  rw [← Single.ofOrdinal_mul hk belowOne_lt, ← belowOne_eq]

/-- No draw leads further above the lower end than the greatest one. -/
theorem draw_le_greatest (hlo : lo.isFinite = true) (hk : k < single.infinity)
    (hunit : unit ≤ belowOne.ordinal) :
    (Single.ofOrdinal false unit * Single.ofOrdinal false k + lo).le
      (Single.ofOrdinal false k * belowOne + lo) = true := by
  have hfinite := hunit.trans_lt belowOne_lt
  have hproduct : single.product unit k ≤ single.product k belowOne.ordinal := by
    refine Format.product_le_product ?_
    rw [mul_comm]
    exact mul_le_mul_of_nonneg_left
      ((Format.value_le_value_iff hfinite.le belowOne_lt.le).mpr hunit) (Format.value_nonneg k)
  have hbound := product_belowOne_lt hk
  rw [mul_belowOne hk, Single.ofOrdinal_mul hfinite hk]
  exact Single.add_le_add (Single.isFinite_ofOrdinal false (hproduct.trans_lt hbound))
    (Single.isFinite_ofOrdinal false hbound) hlo (Single.le_ofOrdinal hbound.le hproduct)

/-- No draw leads below the lower end. -/
theorem le_draw (hlo : lo.isFinite = true) (hk : k < single.infinity)
    (hunit : unit ≤ belowOne.ordinal) :
    lo.le (Single.ofOrdinal false unit * Single.ofOrdinal false k + lo) = true := by
  have hdefined := Single.isUndefined_of_isFinite hlo
  rw [Single.ofOrdinal_mul (hunit.trans_lt belowOne_lt) hk]
  exact Single.le_add hlo
    (Single.le_ofOrdinal (n := 0) (single.round_le_infinity _ _) (Nat.zero_le _))
    (Single.le_iff.mpr ⟨hdefined, hdefined, le_refl _⟩)

/-- At the scale found the greatest draw does not lead above the upper end. -/
theorem greatest_le (hlo : lo.isFinite = true) (hlt : lo.lt hi = true) {ordinal : Nat}
    (hordinal : ordinal < single.infinity) :
    (Single.ofOrdinal false (fittingScale lo hi ordinal) * belowOne + lo).le hi = true := by
  have hhi := (Single.lt_iff.mp hlt).2.1
  have hk := (fittingScale_le lo hi ordinal).trans_lt hordinal
  have hdefined : (Single.ofOrdinal false (fittingScale lo hi ordinal) * belowOne + lo).isUndefined
      = false := by
    rw [mul_belowOne hk]
    exact Single.isUndefined_add (Single.isFinite_ofOrdinal false (product_belowOne_lt hk)) hlo
  rcases lt_fittingScale lo hi ordinal with hzero | hfits
  · -- nothing is left of the width, and the lower end lies below the upper one
    have hnothing : Single.ofOrdinal false 0 * belowOne = Single.zero := by decide +kernel
    rw [hzero, hnothing] at hdefined ⊢
    obtain ⟨s, m, e, hsum, hvalue⟩ := Single.add_eq_ofExact (x := .zero) (by decide) hlo
    rw [Single.value_zero, zero_add] at hvalue
    refine Single.le_iff.mpr ⟨hdefined, hhi, ?_⟩
    rw [hsum, Single.position_ofExact_of_value hlo hvalue]
    exact (Single.lt_iff.mp hlt).2.2.le
  · exact Single.le_of_not_lt hdefined hhi hfits

end

/-- The draws of the generator keep to their range. -/
theorem keepsRange : KeepsRange Pcg := by
  intro lo hi draw source rest h
  replace h : singleIn lo hi source = .ok (draw, rest) := h
  refine ⟨fun hempty => ?_, fun hlt => ?_⟩
  · rw [singleIn, if_pos hempty] at h
    injection h with h
    exact (Prod.mk.inj h).1.symm
  · have hnonempty : ¬hi.le lo = true := fun hle =>
      absurd (Single.lt_iff.mp hlt).2.2 (not_lt.mpr (Single.le_iff.mp hle).2.2)
    rw [singleIn, if_neg hnonempty] at h
    dsimp only at h
    cases hfinite : lo.isFinite && hi.isFinite && ((hi - lo) / belowOne).isFinite with
    | false =>
        rw [hfinite, Bool.not_false, if_pos rfl] at h
        cases h
    | true =>
        rw [hfinite, Bool.not_true, if_neg Bool.false_ne_true] at h
        simp only [Bool.and_eq_true] at hfinite
        obtain ⟨⟨hlo, hhi⟩, hscale⟩ := hfinite
        have hordinal := Single.isFinite_iff.mp hscale
        have hk := (fittingScale_le lo hi _).trans_lt hordinal
        obtain ⟨unit, hunit, hfraction⟩ := exists_fraction (n := source.next32.1.toNat / 0x200) (by
          have := source.next32.1.toNat_lt
          omega)
        injection h with h
        obtain ⟨rfl, -⟩ := Prod.mk.inj h
        rw [hfraction]
        exact ⟨le_draw hlo hk hunit,
          Single.le_trans (draw_le_greatest hlo hk hunit) (greatest_le hlo hlt hordinal)⟩

end Pcg

end SpawnForest
