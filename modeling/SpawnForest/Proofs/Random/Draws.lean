import Mathlib.Algebra.Ring.Nat
import SpawnForest.Random.Pcg

/-!
# Where draws lie

A draw of a whole number lies in its closed range. A draw of a single-precision
number succeeds for any state of the generator or for none, depending on the
range alone (`Drawable`). A selection by weight makes one such draw, and
whatever it yields, the index is one of the list.
-/

namespace SpawnForest

namespace Pcg

/-! ## Whole numbers -/

theorem upperHalf_lt {width : Nat} (hwidth : 0 < width) (zone tries : Nat) (g : Pcg) :
    (upperHalf width zone tries g).1 < width := by
  have hbound : ∀ n : UInt32, n.toNat * width / 2 ^ 32 < width := by
    intro n
    rw [Nat.div_lt_iff_lt_mul (by omega), Nat.mul_comm]
    exact Nat.mul_lt_mul_of_pos_left n.toNat_lt hwidth
  induction tries generalizing g with
  | zero => exact hbound _
  | succ tries ih =>
      unfold upperHalf
      dsimp only
      split
      · exact hbound _
      · exact ih _

theorem natIn_of_wide {lo hi : Nat} (hlt : ¬hi ≤ lo) (hwide : 2 ^ 32 ≤ hi - lo + 1) (g : Pcg) :
    natIn lo hi g = (g.next32.1.toNat, g.next32.2) := by
  unfold natIn
  rw [if_neg hlt]
  exact if_pos hwide

theorem natIn_of_narrow {lo hi : Nat} (hlt : ¬hi ≤ lo) (hnarrow : ¬2 ^ 32 ≤ hi - lo + 1)
    (g : Pcg) :
    ∃ zone, natIn lo hi g =
      (match upperHalf (hi - lo + 1) zone 127 g with
      | (n, g) => (lo + n, g)) := by
  unfold natIn
  rw [if_neg hlt]
  exact ⟨_, if_neg hnarrow⟩

/-- A draw lies as far above the lower end as the range is wide, unless the range is that of all
words, and any word may be drawn. -/
theorem natIn_cases (lo hi : Nat) (g : Pcg) :
    (∃ n ≤ hi - lo, (natIn lo hi g).1 = lo + n) ∨
      2 ^ 32 ≤ hi - lo + 1 ∧ (natIn lo hi g).1 < 2 ^ 32 := by
  by_cases hlt : hi ≤ lo
  · rw [natIn, if_pos hlt]
    exact .inl ⟨0, Nat.zero_le _, rfl⟩
  by_cases hwide : 2 ^ 32 ≤ hi - lo + 1
  · rw [natIn_of_wide hlt hwide]
    exact .inr ⟨hwide, g.next32.1.toNat_lt⟩
  · obtain ⟨zone, hdraw⟩ := natIn_of_narrow hlt hwide g
    rw [hdraw]
    have hupper := upperHalf_lt (Nat.succ_pos (hi - lo)) zone 127 g
    -- the draw stays closed: its tries are not to be run here
    generalize upperHalf (hi - lo + 1) zone 127 g = drawn at hupper ⊢
    obtain ⟨n, g'⟩ := drawn
    replace hupper : n < hi - lo + 1 := hupper
    exact .inl ⟨n, Nat.le_of_lt_succ hupper, rfl⟩

theorem natIn_le (lo hi : Nat) (g : Pcg) : (natIn lo hi g).1 ≤ max lo hi := by
  rcases natIn_cases lo hi g with ⟨n, hn, hdraw⟩ | ⟨hwide, hdraw⟩ <;> omega

theorem le_natIn {hi : Nat} (hword : hi < 2 ^ 32) (lo : Nat) (g : Pcg) :
    lo ≤ (natIn lo hi g).1 := by
  rcases natIn_cases lo hi g with ⟨n, hn, hdraw⟩ | ⟨hwide, hdraw⟩ <;> omega

/-! ## Single-precision numbers -/

/-- A range with a finite width, or one of a single number. -/
def Drawable (lo hi : Single) : Prop :=
  hi.le lo = true ∨ (lo.isFinite && hi.isFinite && ((hi - lo) / belowOne).isFinite) = true

instance (lo hi : Single) : Decidable (Drawable lo hi) := inferInstanceAs (Decidable (_ ∨ _))

theorem singleIn_of_drawable {lo hi : Single} (h : Drawable lo hi) (g : Pcg) :
    ∃ x g', singleIn lo hi g = .ok (x, g') := by
  unfold singleIn
  by_cases hempty : hi.le lo = true
  · rw [if_pos hempty]
    exact ⟨lo, g, rfl⟩
  · rw [if_neg hempty]
    dsimp only
    rw [h.resolve_left hempty]
    exact ⟨_, _, rfl⟩

theorem singleIn_of_not_drawable {lo hi : Single} (h : ¬Drawable lo hi) (g : Pcg) :
    singleIn lo hi g = .error .infiniteRange := by
  rw [Drawable, not_or, Bool.not_eq_true] at h
  obtain ⟨hle, hfinite⟩ := h
  rw [singleIn, if_neg (by rw [hle]; exact Bool.false_ne_true)]
  dsimp only
  rw [Bool.not_eq_true] at hfinite
  rw [hfinite]
  rfl

end Pcg

/-! ## Selection by weight -/

/-- A selection among these weights has a finite range to draw from. -/
def Selectable (weights : List Single) : Prop :=
  Pcg.Drawable .one (weights.foldl (fun sum w => sum + w.max .one) .zero)

instance (weights : List Single) : Decidable (Selectable weights) :=
  inferInstanceAs (Decidable (Pcg.Drawable _ _))

theorem reached_lt {draw running : Single} {weights : List Single} {i : Nat}
    (h : reached draw running weights = some i) : i < weights.length := by
  induction weights generalizing running i with
  | nil => cases h
  | cons w weights ih =>
      rw [reached] at h
      split at h
      · obtain rfl := Option.some.inj h
        exact Nat.zero_lt_succ _
      · obtain ⟨j, hj, rfl⟩ := Option.map_eq_some_iff.mp h
        exact Nat.succ_lt_succ (ih hj)

theorem weightedPick_of_selectable {weights : List Single} (hne : weights ≠ [])
    (h : Selectable weights) (g : Pcg) :
    ∃ i g', i < weights.length ∧ weightedPick weights g = .ok (some i, g') := by
  obtain ⟨x, g', hdraw⟩ := Pcg.singleIn_of_drawable h g
  replace hdraw : RandomSource.singleIn .one
    (weights.foldl (fun sum w => sum + w.max .one) .zero) g = .ok (x, g') := hdraw
  have hpos := List.length_pos_iff.mpr hne
  refine ⟨(reached x .zero weights).getD (weights.length - 1), g', ?_, ?_⟩
  · cases hreached : reached x .zero weights with
    | none =>
        rw [Option.getD_none]
        omega
    | some i => exact reached_lt hreached
  · rw [weightedPick, if_neg (by simpa using hne)]
    simp only [hdraw]

theorem weightedPick_of_not_selectable {weights : List Single} (hne : weights ≠ [])
    (h : ¬Selectable weights) (g : Pcg) : weightedPick weights g = .error .infiniteRange := by
  have hdraw : RandomSource.singleIn .one
      (weights.foldl (fun sum w => sum + w.max .one) .zero) g = .error .infiniteRange :=
    Pcg.singleIn_of_not_drawable h g
  rw [weightedPick, if_neg (by simpa using hne)]
  simp only [hdraw]

/-- A selection by weight: there is nothing to select, the draw fails, or a member is selected. -/
theorem weightedPick_cases {α : Type} (items : List α) (weight : α → Single) (g : Pcg) :
    (items = [] ∧ weightedPick (items.map weight) g = .ok (none, g)) ∨
    (¬Selectable (items.map weight) ∧
      weightedPick (items.map weight) g = .error .infiniteRange) ∨
    ∃ i g', i < items.length ∧ weightedPick (items.map weight) g = .ok (some i, g') := by
  by_cases hnone : items = []
  · exact .inl ⟨hnone, by rw [hnone]; rfl⟩
  have hne : items.map weight ≠ [] := fun h => hnone (List.map_eq_nil_iff.mp h)
  by_cases hselect : Selectable (items.map weight)
  · obtain ⟨i, g', hi, hpick⟩ := weightedPick_of_selectable hne hselect g
    rw [List.length_map] at hi
    exact .inr (.inr ⟨i, g', hi, hpick⟩)
  · exact .inr (.inl ⟨hselect, weightedPick_of_not_selectable hne hselect g⟩)

end SpawnForest
