import Mathlib.Order.Bounds.Defs
import SpawnForest.Proofs.Random.Ranges

/-!
# Selection by running sums

The draw of a selection lies between one and the total of the weights, and the
total is the last of the running sums: both come of the same additions in the
same order, so that it does not matter what each of them loses in rounding. So
some running sum reaches the draw, the least index of one that does is the index
selected, and the last index is never taken for want of another.
-/

namespace SpawnForest

variable {draw draw' running : Single} {weights : List Single} {i : Nat}

/-- The sum of the first weights, each counting as at least one, carried on from `running`. -/
def runningSum (running : Single) (weights : List Single) (count : Nat) : Single :=
  (weights.take count).foldl (fun sum w => sum + w.max .one) running

/-- The indices whose running sum reaches the draw. -/
def Reaching (draw running : Single) (weights : List Single) : Set Nat :=
  {i | i < weights.length ∧ draw.le (runningSum running weights (i + 1)) = true}

/-! ## Running sums -/

theorem Single.one_le_max_one (w : Single) : one.le (w.max one) = true := by
  have hone : one.isUndefined = false := by decide +kernel
  have hself : one.le one = true := by decide +kernel
  unfold max
  cases hdefined : w.isUndefined with
  | true =>
      rw [if_pos rfl]
      exact hself
  | false =>
      rw [if_neg Bool.false_ne_true, hone, if_neg Bool.false_ne_true]
      cases hlt : w.lt one with
      | true =>
          rw [if_pos rfl]
          exact hself
      | false =>
          rw [if_neg Bool.false_ne_true]
          exact le_of_not_lt hone hdefined hlt

theorem one_le_add (h : Single.zero.le running = true) (w : Single) :
    Single.one.le (running + w.max .one) = true :=
  Single.le_add (by decide +kernel) h (Single.one_le_max_one w)

theorem one_le_runningSum (hrunning : Single.zero.le running = true) (hne : weights ≠ []) :
    Single.one.le (runningSum running weights weights.length) = true := by
  rw [runningSum, List.take_length]
  induction weights generalizing running with
  | nil => exact absurd rfl hne
  | cons w weights ih =>
      have hsum := one_le_add hrunning w
      cases weights with
      | nil => exact hsum
      | cons next weights =>
          exact ih (Single.le_trans (by decide +kernel) hsum) (List.cons_ne_nil _ _)

/-! ## The index selected -/

theorem isLeast_of_reached (h : reached draw running weights = some i) :
    IsLeast (Reaching draw running weights) i := by
  induction weights generalizing running i with
  | nil => cases h
  | cons w weights ih =>
      rw [reached] at h
      by_cases hfirst : draw.le (running + w.max .one) = true
      · rw [if_pos hfirst] at h
        obtain rfl := Option.some.inj h
        exact ⟨⟨Nat.zero_lt_succ _, hfirst⟩, fun j _ => Nat.zero_le j⟩
      · rw [if_neg hfirst] at h
        obtain ⟨j, hj, rfl⟩ := Option.map_eq_some_iff.mp h
        obtain ⟨⟨hlt, hreaches⟩, hleast⟩ := ih hj
        refine ⟨⟨Nat.succ_lt_succ hlt, hreaches⟩, ?_⟩
        rintro (_ | k) ⟨hk, hkreaches⟩
        · exact absurd hkreaches hfirst
        · exact Nat.succ_le_succ (hleast ⟨Nat.lt_of_succ_lt_succ hk, hkreaches⟩)

theorem exists_reached (h : i ∈ Reaching draw running weights) :
    ∃ j, reached draw running weights = some j := by
  induction weights generalizing running i with
  | nil => exact absurd h.1 (Nat.not_lt_zero _)
  | cons w weights ih =>
      rw [reached]
      by_cases hfirst : draw.le (running + w.max .one) = true
      · rw [if_pos hfirst]
        exact ⟨0, rfl⟩
      · rw [if_neg hfirst]
        cases i with
        | zero => exact absurd h.2 hfirst
        | succ i =>
            have hrest : i ∈ Reaching draw (running + w.max .one) weights :=
              ⟨Nat.lt_of_succ_lt_succ h.1, h.2⟩
            obtain ⟨j, hj⟩ := ih hrest
            exact ⟨j + 1, by rw [hj, Option.map_some]⟩

section

variable {σ : Type} [RandomSource σ] {source rest : σ}

/-- The total that a selection draws up to. -/
def weightTotal (weights : List Single) : Single := runningSum .zero weights weights.length

/-- A draw for a selection does not exceed the total. -/
theorem draw_le_weightTotal (hkeeps : KeepsRange σ) (hne : weights ≠ [])
    (h : RandomSource.singleIn .one (weightTotal weights) source = .ok (draw, rest)) :
    draw.le (weightTotal weights) = true := by
  have hone : Single.one.le (weightTotal weights) = true := one_le_runningSum (by decide) hne
  obtain ⟨hempty, hwithin⟩ := hkeeps _ _ _ _ _ h
  cases hle : (weightTotal weights).le .one with
  | true =>
      rw [hempty hle]
      exact hone
  | false =>
      obtain ⟨hdefined, hdefined', -⟩ := Single.le_iff.mp hone
      exact (hwithin (Single.lt_of_not_le hdefined hdefined' hle)).2

/-- A draw is reached, and the least index that reaches it is selected. -/
theorem weightedPick_of_draw (hkeeps : KeepsRange σ) (hne : weights ≠ [])
    (h : RandomSource.singleIn .one (weightTotal weights) source = .ok (draw, rest)) :
    ∃ i, reached draw .zero weights = some i ∧ IsLeast (Reaching draw .zero weights) i ∧
      weightedPick weights source = .ok (some i, rest) := by
  have hlength := List.length_pos_iff.mpr hne
  have hlast : weights.length - 1 ∈ Reaching draw .zero weights := by
    refine ⟨by omega, ?_⟩
    rw [Nat.sub_add_cancel hlength]
    exact draw_le_weightTotal hkeeps hne h
  obtain ⟨i, hi⟩ := exists_reached hlast
  refine ⟨i, hi, isLeast_of_reached hi, ?_⟩
  rw [weightTotal, runningSum, List.take_length] at h
  rw [weightedPick, if_neg (by simpa using hne)]
  simp only [h, hi, Option.getD_some]

theorem weightedPick_of_fault (hne : weights ≠ []) {fault : Fault}
    (h : RandomSource.singleIn .one (weightTotal weights) source = .error fault) :
    weightedPick weights source = .error fault := by
  rw [weightTotal, runningSum, List.take_length] at h
  rw [weightedPick, if_neg (by simpa using hne)]
  simp only [h]

/-- For a source that keeps to its range, selection is decided by the running sums: it breaks off
with its draw; where there is a draw, some running sum reaches it and the least index of one that
does is selected; and the greater of two draws does not select the smaller index. -/
theorem weightedPick_by_running_sums (hkeeps : KeepsRange σ) (hne : weights ≠ []) :
    (∀ (source : σ) (fault : Fault),
      RandomSource.singleIn .one (weightTotal weights) source = .error fault →
        weightedPick weights source = .error fault) ∧
    (∀ (source rest : σ) (draw : Single),
      RandomSource.singleIn .one (weightTotal weights) source = .ok (draw, rest) →
        ∃ i, reached draw .zero weights = some i ∧ IsLeast (Reaching draw .zero weights) i ∧
          weightedPick weights source = .ok (some i, rest)) ∧
    ∀ (source source' rest rest' : σ) (draw draw' : Single),
      RandomSource.singleIn .one (weightTotal weights) source = .ok (draw, rest) →
      RandomSource.singleIn .one (weightTotal weights) source' = .ok (draw', rest') →
      draw.le draw' = true →
        ∃ i i', weightedPick weights source = .ok (some i, rest) ∧
          weightedPick weights source' = .ok (some i', rest') ∧ i ≤ i' := by
  refine ⟨fun source fault => weightedPick_of_fault hne,
    fun source rest draw => weightedPick_of_draw hkeeps hne, ?_⟩
  intro source source' rest rest' draw draw' h h' hle
  obtain ⟨i, -, hleast, hpick⟩ := weightedPick_of_draw hkeeps hne h
  obtain ⟨i', -, hleast', hpick'⟩ := weightedPick_of_draw hkeeps hne h'
  -- what reaches the greater draw reaches the smaller one
  exact ⟨i, i', hpick, hpick', hleast.2 ⟨hleast'.1.1, Single.le_trans hle hleast'.1.2⟩⟩

end

/-- Weights in three parts, selected from with the generator of a map. -/
theorem weightedPick_by_running_sums_three :
    let weights : List Single := [.ofNat 10, .ofNat 30, .ofNat 60]
    KeepsRange Pcg ∧ weights ≠ [] ∧
      ∃ draw rest,
        RandomSource.singleIn .one (weightTotal weights) (Pcg.ofSeed 4) = .ok (draw, rest) ∧
        IsLeast (Reaching draw .zero weights) 2 ∧
        weightedPick weights (Pcg.ofSeed 4) = .ok (some 2, rest) := by
  intro weights
  have hne : weights ≠ [] := List.cons_ne_nil _ _
  have hrange : Pcg.Drawable .one (weightTotal weights) := by decide +kernel
  obtain ⟨draw, rest, hdraw⟩ := Pcg.singleIn_of_drawable hrange (Pcg.ofSeed 4)
  obtain ⟨i, -, hleast, hpick⟩ :=
    (weightedPick_by_running_sums Pcg.keepsRange hne).2.1 (Pcg.ofSeed 4) rest draw hdraw
  have hindex : (weightedPick weights (Pcg.ofSeed 4)).toOption.bind (·.1) = some 2 := by
    decide +kernel
  rw [hpick] at hindex
  obtain rfl : i = 2 := Option.some.inj hindex
  exact ⟨Pcg.keepsRange, hne, draw, rest, hdraw, hleast, hpick⟩

end SpawnForest
