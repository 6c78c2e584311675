import SpawnForest.Proofs.Forest.Capacity

/-!
# Room up to the minimums

At the minimum the walk carries a floor beside the budget, and each leaf that
shares it leaves less of it to the next one. What a pool gets then depends on
the pools before it. That the whole does not is seen by splitting what a subtree
lacks (`Need`): its own part is there whatever the floor is, and only the shared
part is drawn from the floor. A walk takes as much of the floor as the shared
part asks for, or so much that the budget is spent anyway (`Need.Met`).

This is passed on by every list of children, in whichever order they come
(`Need.Met.foldl`), so the room at the minimum is one formula in the need of the
pool, the budget above it and the floor above it (`room_minimum`).
-/

namespace SpawnForest

/-- What a subtree lacks to its minimums. -/
structure Need where
  /-- What it lacks to minimums that are set inside of it. -/
  own : Nat
  /-- What its leaves could take from the minimum of the group that bounds it from above. -/
  shared : Nat

/-- What a pool lacks, if its children lack `parts`. A group with a maximum hands out its own
minimum, so nothing below it draws on another one. -/
def Pool.needOver (p : Pool) (parts : List Need) : Need :=
  let own := (parts.map (·.own)).sum
  let shared := (parts.map (·.shared)).sum
  if !p.active then ⟨0, 0⟩
  else if p.isLeaf then
    if p.inheritsLimits then ⟨0, p.maxLimit - p.ownCount⟩ else ⟨p.minLimit - p.ownCount, 0⟩
  else if p.maxLimit = 0 then ⟨own, shared⟩
  else ⟨min (p.maxLimit - p.totalCount) (own + min p.minRoom shared), 0⟩

/-! ## Drawing on a floor -/

/-- The outcome of a walk under a budget and over a floor: the room, and what is left of the floor.
Less than possible is taken from the floor only where that is already more than the budget. -/
def Need.Met (n : Need) (budget floor : Nat) (outcome : Nat × Nat) : Prop :=
  ∃ taken ≤ min floor n.shared, (budget ≤ taken ∨ taken = min floor n.shared) ∧
    outcome = (min budget (n.own + taken), floor - taken)

theorem Need.Met.room {n : Need} {budget floor : Nat} {outcome : Nat × Nat}
    (h : n.Met budget floor outcome) : outcome.1 = min budget (n.own + min floor n.shared) := by
  obtain ⟨taken, hle, hspent, rfl⟩ := h
  dsimp only
  omega

theorem Need.met_zero (n : Need) (floor : Nat) : n.Met 0 floor (0, floor) :=
  ⟨0, Nat.zero_le _, .inl (Nat.le_refl 0), by simp⟩

/-- Where nothing is drawn from the floor, only the budget is in the way. -/
theorem Need.met_own (own budget floor : Nat) :
    Need.Met ⟨own, 0⟩ budget floor (min budget own, floor) :=
  ⟨0, Nat.zero_le _, .inr (Nat.min_zero _).symm, rfl⟩

theorem met_leafRoom (p : Pool) (budget floor : Nat) :
    Need.Met (if p.inheritsLimits then ⟨0, p.maxLimit - p.ownCount⟩
        else ⟨p.minLimit - p.ownCount, 0⟩) budget floor
      (Forest.leafRoom .minimum p budget floor) := by
  unfold Forest.leafRoom
  dsimp only
  split
  · refine ⟨min (min budget (p.maxLimit - p.ownCount)) floor, ?_, ?_, ?_⟩
    · dsimp only
      omega
    · dsimp only
      omega
    · rw [Prod.mk.injEq]
      dsimp only
      omega
  · exact Need.met_own _ _ _

/-- Children one after another draw on the floor like one subtree that lacks what they lack
together. The sum of their rooms may be greater than the budget, and is clamped later. -/
theorem Need.Met.foldl {budget : Nat} {n : PoolId → Need} {part : Nat → PoolId → Nat × Nat}
    {l : List PoolId} (hpart : ∀ c ∈ l, ∀ floor, (n c).Met budget floor (part floor c))
    (sum floor : Nat) :
    ∃ room left, l.foldl (fun (acc : Nat × Nat) c =>
        ((acc.1 + (part acc.2 c).1), (part acc.2 c).2)) (sum, floor) = (sum + room, left) ∧
      Need.Met ⟨(l.map fun c => (n c).own).sum, (l.map fun c => (n c).shared).sum⟩ budget floor
        (min budget room, left) := by
  induction l generalizing sum floor with
  | nil => exact ⟨0, floor, rfl, by simpa using Need.met_own 0 budget floor⟩
  | cons c l ih =>
      obtain ⟨taken, hle, hspent, hc⟩ := hpart c List.mem_cons_self floor
      obtain ⟨room, left, hfold, taken', hle', hspent', hrest⟩ :=
        ih (fun d hd => hpart d (List.mem_cons_of_mem c hd)) (sum + (part floor c).1)
          (part floor c).2
      refine ⟨(part floor c).1 + room, left, ?_, taken + taken', ?_⟩
      · rw [List.foldl_cons, hfold, Nat.add_assoc]
      · rw [hc] at hle' hspent' hrest ⊢
        simp only [List.map_cons, List.sum_cons, Prod.mk.injEq] at hle' hspent' hrest ⊢
        omega

/-- A group clamps the budget, and if it has a maximum it puts its own floor in the place of the
one from above. -/
theorem Need.Met.group {p : Pool} (hgroup : ¬p.isLeaf = true) {n : Need}
    {budget floor room left : Nat} (hbudget : budget ≤ Pool.unbounded)
    (h : n.Met (min budget p.maxRoom) (if p.maxLimit > 0 then p.minRoom else floor)
      (min (min budget p.maxRoom) room, left)) :
    Need.Met (if p.maxLimit = 0 then ⟨n.own, n.shared⟩
        else ⟨min (p.maxLimit - p.totalCount) (n.own + min p.minRoom n.shared), 0⟩) budget floor
      (if min budget p.maxRoom = 0 then (0, floor)
        else (min (min budget p.maxRoom) room, if p.maxLimit > 0 then floor else left)) := by
  by_cases hmax : p.maxLimit = 0
  · -- an unbounded group hands budget and floor down as they are
    have hroom : min budget p.maxRoom = budget := by simp [Pool.maxRoom, hmax, hgroup, hbudget]
    simp only [hmax, hroom, gt_iff_lt, Nat.lt_irrefl, if_true, if_false] at h ⊢
    by_cases hspent : budget = 0
    · rw [if_pos hspent, hspent]
      exact Need.met_zero _ floor
    · rw [if_neg hspent]
      exact h
  · have hclamp : ∀ m, min (min budget p.maxRoom) m =
        min budget (min (p.maxLimit - p.totalCount) m) := by
      intro m
      rw [Nat.min_assoc]
      simp [Pool.maxRoom, hmax]
    have hinner := h.room
    simp only [Nat.pos_of_ne_zero hmax, if_true] at hinner
    have houtcome : (if min budget p.maxRoom = 0 then (0, floor)
        else (min (min budget p.maxRoom) room, if p.maxLimit > 0 then floor else left)) =
        (min budget (min (p.maxLimit - p.totalCount) (n.own + min p.minRoom n.shared)), floor) := by
      rw [← hclamp]
      by_cases hspent : min budget p.maxRoom = 0
      · rw [if_pos hspent, hspent, Nat.zero_min]
      · rw [if_neg hspent, hinner, if_pos (Nat.pos_of_ne_zero hmax)]
    rw [if_neg hmax, houtcome]
    exact Need.met_own _ _ _

namespace Forest

/-! ## The need of a pool -/

/-- What the subtree of a pool lacks, looking at most `bound` levels down. -/
def needBelow (f : Forest) : Nat → PoolId → Need
  | 0, _ => ⟨0, 0⟩
  | bound + 1, id =>
    match f.get? id with
    | none => ⟨0, 0⟩
    | some p => p.needOver (p.children.map (needBelow f bound))

/-- What the subtree of a pool lacks to the minimums in it. -/
def need (f : Forest) (id : PoolId) : Need := f.needBelow (f.size + 1) id

theorem need_of_unknown {f : Forest} {id : PoolId} (h : f.get? id = none) :
    f.need id = ⟨0, 0⟩ := by
  rw [need, needBelow, h]

theorem WellLinked.need_of_get {f : Forest} (hf : f.WellLinked) {id : PoolId} {p : Pool}
    (hp : f.get? id = some p) : f.need id = p.needOver (p.children.map f.need) := by
  have hwalk : ∀ bound id, f.needBelow (bound + 1) id =
      (f.get? id).elim ⟨0, 0⟩ (·.needOver ((f.children id).map (f.needBelow bound))) := by
    intro bound id
    rw [needBelow]
    cases hid : f.get? id with
    | none => rfl
    | some p => rw [children_of_get hid, Option.elim_some]
  rw [need, hf.walk_unfold (fun id parts => (f.get? id).elim ⟨0, 0⟩ (·.needOver parts)) hwalk id,
    hp, children_of_get hp]
  rfl

/-! ## The walk meets the need -/

/-- A budget that comes down to a subtree over a floor is spent as far as its need goes. -/
theorem roomBelow_minimum (f : Forest) {bound : Nat} {id : PoolId} {budget floor : Nat}
    (hbudget : budget ≤ Pool.unbounded) :
    (f.needBelow bound id).Met budget floor (f.roomBelow .minimum bound id budget floor) := by
  induction bound generalizing id budget floor with
  | zero => simpa only [needBelow, roomBelow, Nat.min_zero] using Need.met_own 0 budget floor
  | succ bound ih =>
      rw [needBelow, roomBelow]
      cases hp : f.get? id with
      | none => simpa using Need.met_own 0 budget floor
      | some p =>
          simp only [Pool.needOver]
          by_cases hactive : p.active = true
          · by_cases hleaf : p.isLeaf = true
            · simpa only [hactive, hleaf, Bool.not_true, Bool.false_eq_true, if_false, if_true]
                using met_leafRoom p budget floor
            · simp only [hactive, hleaf, Bool.not_true, Bool.false_eq_true, if_false]
              have hparts : ∀ c ∈ p.children, ∀ floor, (f.needBelow bound c).Met
                  (min budget p.maxRoom) floor
                  (f.roomBelow .minimum bound c (min budget p.maxRoom) floor) :=
                fun c _ floor => ih (Nat.le_trans (Nat.min_le_left budget p.maxRoom) hbudget)
              obtain ⟨room, left, hfold, hmet⟩ :=
                Need.Met.foldl hparts 0 (if p.maxLimit > 0 then p.minRoom else floor)
              rw [Nat.zero_add] at hfold
              simp only [hfold, List.map_map]
              exact hmet.group hleaf hbudget
          · simpa [hactive] using Need.met_own 0 budget floor

/-- The room up to the minimums is what the pool lacks by itself and what it can take from the floor
above it, as far as the maximums above leave room for that. -/
theorem room_minimum (f : Forest) (id : PoolId) :
    f.room id .minimum = min (f.budgetAbove id)
      ((f.need id).own + min (f.floorAbove id) (f.need id).shared) :=
  (roomBelow_minimum f (f.budgetAbove_le id)).room

end Forest

end SpawnForest
