import Mathlib.Algebra.BigOperators.Group.List.Lemmas
import Mathlib.Algebra.Ring.Nat
import SpawnForest.Forest.Capacity
import SpawnForest.Proofs.Forest.Subtree

/-!
# Room up to the maximums

`room` hands one budget down and clamps it on the way. Up to the maximums this
is the same as asking each subtree for its own capacity, without any budget,
and clamping once at the end (`room_eq_min`): a clamped budget that goes to
every child unchanged is made good again when the sum is clamped, since
`min b (Σ min b xᵢ) = min b (Σ xᵢ)`.

`capacity` is what a subtree can take if nothing above it is in the way. It has
one equation for each pool, `capacity_of_get`, and no bound on the depth.
-/

namespace SpawnForest

/-- What a pool can take, if its children together can take `below`. -/
def Pool.capacityOver (p : Pool) (below : Nat) : Nat :=
  if !p.active then 0
  else if p.isLeaf then p.maxLimit - p.ownCount
  else if p.maxLimit = 0 then below
  else min (p.maxLimit - p.totalCount) below

namespace Forest

/-! ## Capacity -/

/-- What the subtree of a pool can take, looking at most `bound` levels down. -/
def capacityBelow (f : Forest) : Nat → PoolId → Nat
  | 0, _ => 0
  | bound + 1, id =>
    match f.get? id with
    | none => 0
    | some p => p.capacityOver (p.children.map (capacityBelow f bound)).sum

/-- What the subtree of a pool can take up to the maximums in it. -/
def capacity (f : Forest) (id : PoolId) : Nat := f.capacityBelow (f.size + 1) id

theorem capacity_of_unknown {f : Forest} {id : PoolId} (h : f.get? id = none) :
    f.capacity id = 0 := by
  rw [capacity, capacityBelow, h]

theorem WellLinked.capacity_of_get {f : Forest} (hf : f.WellLinked) {id : PoolId} {p : Pool}
    (hp : f.get? id = some p) :
    f.capacity id = p.capacityOver (p.children.map f.capacity).sum := by
  have hwalk : ∀ bound id, f.capacityBelow (bound + 1) id =
      (f.get? id).elim 0 (·.capacityOver ((f.children id).map (f.capacityBelow bound)).sum) := by
    intro bound id
    rw [capacityBelow]
    cases hid : f.get? id with
    | none => rfl
    | some p => rw [children_of_get hid, Option.elim_some]
  rw [capacity, hf.walk_unfold (fun id parts => (f.get? id).elim 0 (·.capacityOver parts.sum))
    hwalk id, hp, children_of_get hp]
  rfl

/-! ## Clamping once or on the way -/

theorem min_sum_min (b : Nat) (l : List PoolId) (x : PoolId → Nat) :
    min b (l.map (fun c => min b (x c))).sum = min b (l.map x).sum := by
  induction l with
  | nil => rfl
  | cons c l ih =>
      rw [List.map_cons, List.map_cons, List.sum_cons, List.sum_cons]
      omega

/-- The walk with a budget, in one step: the parts of the children are added up. -/
theorem foldl_parts (part : Nat → PoolId → Nat × Nat) {x : PoolId → Nat}
    (hpart : ∀ floor c, (part floor c).1 = x c) (l : List PoolId) (sum floor : Nat) :
    (l.foldl (fun (acc : Nat × Nat) c =>
      ((acc.1 + (part acc.2 c).1), (part acc.2 c).2)) (sum, floor)).1 = sum + (l.map x).sum := by
  induction l generalizing sum floor with
  | nil => rfl
  | cons c l ih =>
      rw [List.foldl_cons, ih, hpart, List.map_cons, List.sum_cons, Nat.add_assoc]

/-- A budget that comes down to a subtree is spent as far as the capacity goes. -/
theorem roomBelow_maximum (f : Forest) {bound : Nat} {id : PoolId} {budget floor : Nat}
    (hbudget : budget ≤ Pool.unbounded) :
    (f.roomBelow .maximum bound id budget floor).1 = min budget (f.capacityBelow bound id) := by
  induction bound generalizing id budget floor with
  | zero => rw [roomBelow, capacityBelow, Nat.min_zero]
  | succ bound ih =>
      rw [roomBelow, capacityBelow]
      cases hp : f.get? id with
      | none => simp
      | some p =>
          simp only [Pool.capacityOver]
          by_cases hactive : p.active = true
          · by_cases hleaf : p.isLeaf = true
            · simp [hactive, hleaf, leafRoom]
            · have hclamp : min budget p.maxRoom ≤ Pool.unbounded :=
                Nat.le_trans (Nat.min_le_left _ _) hbudget
              have hsum : ∀ floor, (p.children.foldl (fun (acc : Nat × Nat) c =>
                  ((acc.1 + (f.roomBelow .maximum bound c (min budget p.maxRoom) acc.2).1),
                    (f.roomBelow .maximum bound c (min budget p.maxRoom) acc.2).2)) (0, floor)).1
                    = (p.children.map fun c =>
                      min (min budget p.maxRoom) (f.capacityBelow bound c)).sum := by
                intro floor
                rw [foldl_parts (fun floor c => f.roomBelow .maximum bound c
                  (min budget p.maxRoom) floor) (fun floor c => ih hclamp), Nat.zero_add]
              simp only [hactive, hleaf, Bool.not_true, Bool.false_eq_true, if_false, hsum]
              by_cases hzero : min budget p.maxRoom = 0
              · rw [if_pos hzero]
                have hroom : budget = 0 ∨ p.maxRoom = 0 := by omega
                rcases hroom with h | h
                · simp [h]
                · have hbounded : p.maxLimit ≠ 0 := by
                    intro hmax
                    simp [Pool.maxRoom, hmax, hleaf, Pool.unbounded] at h
                  have hfull : p.maxLimit - p.totalCount = 0 := by
                    simpa [Pool.maxRoom, hbounded] using h
                  simp [hbounded, hfull]
              · rw [if_neg hzero, min_sum_min, Nat.min_assoc]
                by_cases hmax : p.maxLimit = 0
                · simp only [Pool.maxRoom, hmax, hleaf, if_true]
                  simp only [decide_true, Bool.not_false, Bool.and_true, if_true]
                  omega
                · simp [Pool.maxRoom, hmax]
          · simp [hactive]

/-! ## The budget from above -/

theorem le_foldl_min {t b : Nat} {l : List Nat} :
    t ≤ l.foldl min b ↔ t ≤ b ∧ ∀ x ∈ l, t ≤ x := by
  induction l generalizing b with
  | nil => simp
  | cons x l ih =>
      rw [List.foldl_cons, ih, Nat.le_min, and_assoc, List.forall_mem_cons]

theorem le_budgetAbove {f : Forest} {id : PoolId} {t : Nat} :
    t ≤ f.budgetAbove id ↔
      t ≤ Pool.unbounded ∧ ∀ g ∈ f.ancestors id, ∀ p, f.get? g = some p → t ≤ p.maxRoom := by
  rw [budgetAbove, le_foldl_min]
  simp only [List.mem_map, List.mem_filterMap]
  refine and_congr_right (fun _ => ⟨?_, ?_⟩)
  · intro h g hg p hp
    exact h _ ⟨p, ⟨g, hg, hp⟩, rfl⟩
  · rintro h x ⟨p, ⟨g, hg, hp⟩, rfl⟩
    exact h g hg p hp

theorem budgetAbove_le (f : Forest) (id : PoolId) : f.budgetAbove id ≤ Pool.unbounded :=
  (le_budgetAbove.mp (Nat.le_refl _)).1

theorem roomBelow_le (f : Forest) (mode : Mode) (bound : Nat) (id : PoolId) (budget floor : Nat) :
    (f.roomBelow mode bound id budget floor).1 ≤ budget := by
  cases bound with
  | zero => exact Nat.zero_le _
  | succ bound =>
      unfold roomBelow
      cases hp : f.get? id with
      | none => exact Nat.zero_le _
      | some p =>
          dsimp only
          split
          · exact Nat.zero_le _
          · split
            · unfold leafRoom
              cases mode with
              | maximum => exact Nat.min_le_left _ _
              | minimum =>
                  dsimp only
                  split
                  · exact Nat.le_trans (Nat.min_le_left _ _) (Nat.min_le_left _ _)
                  · exact Nat.min_le_left _ _
            · split
              · exact Nat.zero_le _
              · exact Nat.le_trans (Nat.min_le_left _ _) (Nat.min_le_left _ _)

/-- Whichever limits are filled, there is room for a pool only if every pool above it has some. -/
theorem maxRoom_pos_of_hasRoom {f : Forest} {mode : Mode} {id g : PoolId} {p : Pool}
    (h : f.hasRoom id mode = true) (hg : g ∈ f.ancestors id) (hp : f.get? g = some p) :
    0 < p.maxRoom := by
  have hroom : 0 < f.room id mode := by simpa only [hasRoom, decide_eq_true_eq] using h
  have hbudget : 1 ≤ f.budgetAbove id := Nat.lt_of_lt_of_le hroom (roomBelow_le _ _ _ _ _ _)
  exact (le_budgetAbove.mp hbudget).2 g hg p hp

/-- The room of a pool is its capacity, clamped to what the pools above it leave. -/
theorem room_eq_min (f : Forest) (id : PoolId) :
    f.room id .maximum = min (f.budgetAbove id) (f.capacity id) :=
  roomBelow_maximum f (f.budgetAbove_le id)

/-- A child gets what is left by the pools above its parent and by its parent. -/
theorem WellLinked.budgetAbove_of_child {f : Forest} (hf : f.WellLinked) {c q : PoolId} {p : Pool}
    (hc : c ∈ f.children q) (hp : f.get? q = some p) :
    f.budgetAbove c = min (f.budgetAbove q) p.maxRoom := by
  refine eq_of_forall_le_iff ?_
  intro t
  rw [le_budgetAbove, Nat.le_min, le_budgetAbove, hf.ancestors_of_child hc,
    List.forall_mem_cons, and_assoc]
  refine and_congr_right ?_
  intro _
  rw [and_comm]
  refine and_congr_right (fun _ => ⟨fun h => h p hp, ?_⟩)
  intro h p' hp'
  obtain rfl := Option.some.inj (hp.symm.trans hp')
  exact h

end Forest

end SpawnForest
