import Mathlib.Algebra.Order.BigOperators.Group.List
import Mathlib.Algebra.Order.Group.Nat
import Mathlib.Order.Bounds.Basic
import Mathlib.Order.Lattice.Nat
import SpawnForest.Proofs.Forest.Capacity

/-!
# Room as an optimum

`room` never looks for a way to distribute entities. Here the distributions are
spelled out: `Fits` says that amounts given to the leaves below a pool respect
every limit below it, and `Feasible` adds the limits above. The totals of the
feasible amounts are exactly the numbers up to the capacity, as far as the pools
above leave room for them (`WellLinked.exists_feasible_iff`).

Both directions go from parents to children. A fitting distribution stays one
if it is looked at from a child (`WellLinked.fitsUnder_child`), and what is asked
of a group can be cut into parts that its children can take (`exists_parts`). The
parts are put together again without conflict because the subtrees of the
children are disjoint (`WellLinked.exists_assembled`). None of this depends on
how much a leaf may take, so it is said for any limit of the leaves (`FitsUnder`).
-/

namespace SpawnForest

/-- What a leaf can take up to its maximum. -/
def Pool.headroom (p : Pool) : Nat := p.maxLimit - p.ownCount

namespace Forest

/-! ## Distributions -/

/-- A leaf below a pool, with every pool from the one to the other switched on. -/
structure OpenLeaf (f : Forest) (id leaf : PoolId) : Prop where
  below : leaf ∈ f.subtree id
  childless : f.children leaf = []
  active : ∀ x ∈ f.subtree id, leaf ∈ f.subtree x → ∀ p, f.get? x = some p → p.active = true

/-- What the subtree of a pool gets altogether. -/
def load (f : Forest) (a : PoolId → Nat) (id : PoolId) : Nat := ((f.subtree id).map a).sum

/-- Amounts for the open leaves below a pool that respect every limit of its subtree. -/
structure Fits (f : Forest) (id : PoolId) (a : PoolId → Nat) : Prop where
  support : ∀ x ∈ f.subtree id, a x ≠ 0 → f.OpenLeaf id x
  leaf_le : ∀ x ∈ f.subtree id, ∀ p, f.get? x = some p → p.isLeaf = true →
    a x ≤ p.maxLimit - p.ownCount
  group_le : ∀ g ∈ f.subtree id, ∀ p, f.get? g = some p → p.isLeaf = false → 0 < p.maxLimit →
    f.load a g ≤ p.maxLimit - p.totalCount

/-- Amounts that respect every limit above the pool as well. -/
structure Feasible (f : Forest) (id : PoolId) (a : PoolId → Nat) : Prop extends Fits f id a where
  above_le : ∀ g ∈ f.ancestors id, ∀ p, f.get? g = some p → 0 < p.maxLimit →
    f.load a id ≤ p.maxLimit - p.totalCount

/-- Amounts for the open leaves below a pool that respect some limit of the leaves and the maximums
of the groups. -/
structure FitsUnder (f : Forest) (limit : Pool → Nat) (id : PoolId) (a : PoolId → Nat) : Prop where
  support : ∀ x ∈ f.subtree id, a x ≠ 0 → f.OpenLeaf id x
  leaf_le : ∀ x ∈ f.subtree id, ∀ p, f.get? x = some p → p.isLeaf = true → a x ≤ limit p
  group_le : ∀ g ∈ f.subtree id, ∀ p, f.get? g = some p → p.isLeaf = false → 0 < p.maxLimit →
    f.load a g ≤ p.maxLimit - p.totalCount

theorem fits_iff_under {f : Forest} {id : PoolId} {a : PoolId → Nat} :
    f.Fits id a ↔ f.FitsUnder Pool.headroom id a :=
  ⟨fun h => ⟨h.support, h.leaf_le, h.group_le⟩, fun h => ⟨h.support, h.leaf_le, h.group_le⟩⟩

theorem load_congr {f : Forest} {a b : PoolId → Nat} {id : PoolId}
    (hab : ∀ x ∈ f.subtree id, a x = b x) : f.load a id = f.load b id := by
  rw [load, load, List.map_congr_left hab]

theorem isLeaf_iff {f : Forest} {id : PoolId} {p : Pool} (hp : f.get? id = some p) :
    p.isLeaf = true ↔ f.children id = [] := by
  simp [children_of_get hp, Pool.isLeaf]

section

variable {f : Forest} (hf : f.WellLinked)

include hf

theorem WellLinked.load_eq {id : PoolId} (hid : f.contains id = true) (a : PoolId → Nat) :
    f.load a id = a id + ((f.children id).map (f.load a)).sum := by
  rw [load, hf.subtree_eq hid, List.map_cons, List.sum_cons, List.map_flatMap, List.flatMap_def,
    List.sum_flatten, List.map_map]
  rfl

theorem WellLinked.load_of_children {id : PoolId} (hid : f.contains id = true) {a b : PoolId → Nat}
    (hself : a id = 0) (h : ∀ c ∈ f.children id, f.load a c = b c) :
    f.load a id = ((f.children id).map b).sum := by
  rw [hf.load_eq hid, hself, Nat.zero_add, List.map_congr_left h]

theorem WellLinked.load_of_congr {id g : PoolId} {a b : PoolId → Nat} (hg : g ∈ f.subtree id)
    (hab : ∀ x ∈ f.subtree id, a x = b x) : f.load a g = f.load b g :=
  load_congr (fun x hx => hab x (hf.subtree_trans hg hx))

/-! ## Open leaves -/

theorem WellLinked.subtree_child_subset {id c : PoolId} (hc : c ∈ f.children id) :
    f.subtree c ⊆ f.subtree id := by
  intro x hx
  rw [hf.subtree_eq (contains_of_child hc)]
  exact List.mem_cons_of_mem _ (List.mem_flatMap.mpr ⟨c, hc, hx⟩)

/-- Seen from a child below which it lies, an open leaf is open all the more. -/
theorem WellLinked.openLeaf_child {id c leaf : PoolId} (hc : c ∈ f.children id)
    (h : f.OpenLeaf id leaf) (hleaf : leaf ∈ f.subtree c) : f.OpenLeaf c leaf :=
  ⟨hleaf, h.childless, fun x hx => h.active x (hf.subtree_child_subset hc hx)⟩

/-- A leaf open below a child is open below a parent that is switched on. -/
theorem WellLinked.openLeaf_of_child {id c leaf : PoolId} {p : Pool} (hc : c ∈ f.children id)
    (hp : f.get? id = some p) (hactive : p.active = true) (h : f.OpenLeaf c leaf) :
    f.OpenLeaf id leaf := by
  refine ⟨hf.subtree_child_subset hc h.below, h.childless, ?_⟩
  intro x hx hleaf q hq
  rw [hf.subtree_eq (contains_of_child hc)] at hx
  rcases List.mem_cons.mp hx with rfl | hx
  · obtain rfl := Option.some.inj (hp.symm.trans hq)
    exact hactive
  · obtain ⟨d, hd, hx⟩ := List.mem_flatMap.mp hx
    obtain rfl := hf.child_eq_of_mem_subtree hd hc (hf.subtree_trans hx hleaf) h.below
    exact h.active x hx hleaf q hq

theorem WellLinked.active_of_openLeaf {id leaf : PoolId} {p : Pool} (h : f.OpenLeaf id leaf)
    (hp : f.get? id = some p) : p.active = true :=
  h.active id (hf.self_mem_subtree (contains_iff.mpr ⟨p, hp⟩)) h.below p hp

/-- An active leaf is open below itself. -/
theorem WellLinked.openLeaf_self {id : PoolId} {p : Pool} (hp : f.get? id = some p)
    (hactive : p.active = true) (hleaf : p.isLeaf = true) : f.OpenLeaf id id := by
  have hid := contains_iff.mpr ⟨p, hp⟩
  have hchildless := (isLeaf_iff hp).mp hleaf
  refine ⟨hf.self_mem_subtree hid, hchildless, ?_⟩
  intro x hx _ q hq
  rw [hf.subtree_eq hid, hchildless, List.flatMap_nil, List.mem_singleton] at hx
  subst hx
  obtain rfl := Option.some.inj (hp.symm.trans hq)
  exact hactive

/-! ## No distribution exceeds the capacity -/

theorem WellLinked.fitsUnder_child {limit : Pool → Nat} {id c : PoolId} {a : PoolId → Nat}
    (hc : c ∈ f.children id) (h : f.FitsUnder limit id a) : f.FitsUnder limit c a := by
  have hsub := hf.subtree_child_subset hc
  refine ⟨?_, fun x hx => h.leaf_le x (hsub hx), fun g hg => h.group_le g (hsub hg)⟩
  intro x hx hne
  exact hf.openLeaf_child hc (h.support x (hsub hx) hne) hx

/-- Only leaves get anything. -/
theorem WellLinked.zero_of_group {limit : Pool → Nat} {id : PoolId} {p : Pool} {a : PoolId → Nat}
    (h : f.FitsUnder limit id a) (hp : f.get? id = some p) (hgroup : ¬p.isLeaf = true) :
    a id = 0 := by
  by_contra hne
  have hself := hf.self_mem_subtree (contains_iff.mpr ⟨p, hp⟩)
  exact hgroup ((isLeaf_iff hp).mpr (h.support id hself hne).childless)

/-- Below a pool that is switched off nothing is open. -/
theorem WellLinked.zero_of_inactive {limit : Pool → Nat} {id : PoolId} {p : Pool}
    {a : PoolId → Nat} (h : f.FitsUnder limit id a) (hp : f.get? id = some p)
    (hinactive : p.active = false) : ∀ x ∈ f.subtree id, a x = 0 := by
  intro x hx
  by_contra hne
  rw [hf.active_of_openLeaf (h.support x hx hne) hp] at hinactive
  cases hinactive

omit hf in
theorem load_eq_zero {id : PoolId} {a : PoolId → Nat} (h : ∀ x ∈ f.subtree id, a x = 0) :
    f.load a id = 0 := by
  rw [load, List.sum_eq_zero_iff_forall_eq_nat]
  simpa only [List.forall_mem_map] using h

theorem WellLinked.load_le_capacity {id : PoolId} {a : PoolId → Nat}
    (h : f.FitsUnder Pool.headroom id a) : f.load a id ≤ f.capacity id := by
  induction id using hf.down_induction with
  | step id ih =>
      cases hp : f.get? id with
      | none =>
          rw [load, subtree_of_unknown (not_contains_iff.mpr hp)]
          exact Nat.zero_le _
      | some p =>
          have hid := contains_iff.mpr ⟨p, hp⟩
          have hself := hf.self_mem_subtree hid
          rw [hf.capacity_of_get hp, Pool.capacityOver]
          cases hactive : p.active with
          | false => exact Nat.le_of_eq (load_eq_zero (hf.zero_of_inactive h hp hactive))
          | true =>
              rw [Bool.not_true, if_neg Bool.false_ne_true]
              by_cases hleaf : p.isLeaf = true
              · rw [if_pos hleaf, hf.load_eq hid, (isLeaf_iff hp).mp hleaf]
                exact h.leaf_le id hself p hp hleaf
              · rw [if_neg hleaf]
                have hbelow : f.load a id ≤ (p.children.map f.capacity).sum := by
                  rw [hf.load_of_children hid (hf.zero_of_group h hp hleaf) (fun _ _ => rfl),
                    children_of_get hp]
                  refine List.sum_le_sum ?_
                  intro c hc
                  rw [← children_of_get hp] at hc
                  exact ih c hc (hf.fitsUnder_child hc h)
                by_cases hmax : p.maxLimit = 0
                · rw [if_pos hmax]
                  exact hbelow
                · rw [if_neg hmax]
                  rw [Bool.not_eq_true] at hleaf
                  exact Nat.le_min.mpr ⟨h.group_le id hself p hp hleaf (Nat.pos_of_ne_zero hmax),
                    hbelow⟩

end

/-! ## Every total up to the capacity is distributed -/

/-- What several can take together is cut into parts that each can take. -/
theorem exists_parts {l : List PoolId} (hl : l.Nodup) (x : PoolId → Nat) {t : Nat}
    (ht : t ≤ (l.map x).sum) : ∃ b : PoolId → Nat, (∀ c ∈ l, b c ≤ x c) ∧ (l.map b).sum = t := by
  induction l generalizing t with
  | nil =>
      rw [List.map_nil, List.sum_nil, Nat.le_zero] at ht
      exact ⟨fun _ => 0, fun c hc => absurd hc List.not_mem_nil, ht.symm⟩
  | cons c l ih =>
      obtain ⟨hnew, hl⟩ := List.nodup_cons.mp hl
      rw [List.map_cons, List.sum_cons] at ht
      obtain ⟨b, hle, hsum⟩ := ih hl (t := t - min t (x c)) (by omega)
      have hother : ∀ d ∈ l, (if d = c then min t (x c) else b d) = b d := by
        intro d hd
        rw [if_neg (fun h : d = c => hnew (h ▸ hd))]
      refine ⟨fun d => if d = c then min t (x c) else b d, ?_, ?_⟩
      · intro d hd
        beta_reduce
        rcases List.mem_cons.mp hd with rfl | hd
        · rw [if_pos rfl]
          exact Nat.min_le_right _ _
        · rw [hother d hd]
          exact hle d hd
      · rw [List.map_cons, List.sum_cons, if_pos rfl, List.map_congr_left hother, hsum]
        omega

section

variable {f : Forest} (hf : f.WellLinked)

include hf

theorem WellLinked.fitsUnder_congr {limit : Pool → Nat} {id : PoolId} {a b : PoolId → Nat}
    (h : f.FitsUnder limit id a) (hab : ∀ x ∈ f.subtree id, a x = b x) :
    f.FitsUnder limit id b := by
  refine ⟨?_, ?_, ?_⟩
  · intro x hx hne
    exact h.support x hx (by rwa [hab x hx])
  · intro x hx
    rw [← hab x hx]
    exact h.leaf_le x hx
  · intro g hg
    rw [← hf.load_of_congr hg hab]
    exact h.group_le g hg

omit hf in
theorem fitsUnder_zero (f : Forest) (limit : Pool → Nat) (id : PoolId) :
    f.FitsUnder limit id (fun _ => 0) := by
  refine ⟨fun x _ hne => absurd rfl hne, fun x _ p _ _ => Nat.zero_le _, ?_⟩
  intro g _ p _ _ _
  rw [load_eq_zero (fun _ _ => rfl)]
  exact Nat.zero_le _

/-- Distributions below the children of a pool, as one distribution below the pool. -/
theorem WellLinked.exists_glued (id : PoolId) (part : PoolId → PoolId → Nat) :
    ∃ a : PoolId → Nat, a id = 0 ∧ ∀ c ∈ f.children id, ∀ x ∈ f.subtree c, a x = part c x := by
  refine ⟨fun x => ((f.children id).find? (fun c => (f.subtree c).contains x)).elim 0
    (fun c => part c x), ?_, ?_⟩
  · beta_reduce
    cases hfound : (f.children id).find? (fun c => (f.subtree c).contains id) with
    | none => rfl
    | some c =>
        have hmem := List.find?_some hfound
        simp only [List.contains_iff_mem] at hmem
        exact absurd hmem (hf.not_mem_subtree_child (List.mem_of_find?_eq_some hfound))
  · intro c hc x hx
    beta_reduce
    cases hfound : (f.children id).find? (fun c => (f.subtree c).contains x) with
    | none =>
        have hnot := List.find?_eq_none.mp hfound c hc
        exact absurd (List.contains_iff_mem.mpr hx) hnot
    | some d =>
        have hmem := List.find?_some hfound
        simp only [List.contains_iff_mem] at hmem
        have hd := List.mem_of_find?_eq_some hfound
        simp [hf.child_eq_of_mem_subtree hd hc hmem hx]

/-- What every child distributes in its own way is distributed below the pool in one way. -/
theorem WellLinked.exists_assembled {id : PoolId} {P : PoolId → (PoolId → Nat) → Prop}
    (hcongr : ∀ {c a b}, P c a → (∀ x ∈ f.subtree c, a x = b x) → P c b)
    (h : ∀ c ∈ f.children id, ∃ a, P c a) : ∃ a, a id = 0 ∧ ∀ c ∈ f.children id, P c a := by
  have hparts : ∀ c, ∃ a, c ∈ f.children id → P c a := by
    intro c
    by_cases hc : c ∈ f.children id
    · obtain ⟨a, ha⟩ := h c hc
      exact ⟨a, fun _ => ha⟩
    · exact ⟨fun _ => 0, fun hmem => absurd hmem hc⟩
  obtain ⟨part, hpart⟩ := Classical.axiomOfChoice hparts
  obtain ⟨a, hself, hglued⟩ := hf.exists_glued id part
  exact ⟨a, hself, fun c hc => hcongr (hpart c hc) (fun x hx => (hglued c hc x hx).symm)⟩

theorem WellLinked.subtree_leaf {id : PoolId} {p : Pool} (hp : f.get? id = some p)
    (hleaf : p.isLeaf = true) : f.subtree id = [id] := by
  simp [hf.subtree_eq (contains_iff.mpr ⟨p, hp⟩), (isLeaf_iff hp).mp hleaf]

theorem WellLinked.load_leaf {id : PoolId} {p : Pool} (hp : f.get? id = some p)
    (hleaf : p.isLeaf = true) (a : PoolId → Nat) : f.load a id = a id := by
  simp [load, hf.subtree_leaf hp hleaf]

/-- A leaf takes all there is for itself. -/
theorem WellLinked.fitsUnder_leaf {limit : Pool → Nat} {id : PoolId} {p : Pool}
    (hp : f.get? id = some p) (hactive : p.active = true) (hleaf : p.isLeaf = true) {t : Nat}
    (ht : t ≤ limit p) : f.FitsUnder limit id (fun _ => t) := by
  have honly : ∀ {x}, x ∈ f.subtree id → x = id := by
    intro x hx
    rwa [hf.subtree_leaf hp hleaf, List.mem_singleton] at hx
  refine ⟨?_, ?_, ?_⟩
  · intro x hx _
    obtain rfl := honly hx
    exact hf.openLeaf_self hp hactive hleaf
  · intro x hx q hq _
    obtain rfl := honly hx
    obtain rfl := Option.some.inj (hp.symm.trans hq)
    exact ht
  · intro g hg q hq hgroup _
    obtain rfl := honly hg
    obtain rfl := Option.some.inj (hp.symm.trans hq)
    rw [hleaf] at hgroup
    cases hgroup

/-- A pool of a subtree is the pool on top, or it lies below one of its children. -/
theorem WellLinked.mem_subtree_cases {id x : PoolId} (hx : x ∈ f.subtree id) :
    x = id ∨ ∃ c ∈ f.children id, x ∈ f.subtree c := by
  rw [hf.subtree_eq (contains_of_mem_subtree hx)] at hx
  exact (List.mem_cons.mp hx).imp_right List.mem_flatMap.mp

/-- What fits below every child of a group fits below the group, if the group allows for it. -/
theorem WellLinked.fitsUnder_of_children {limit : Pool → Nat} {id : PoolId} {p : Pool}
    (hp : f.get? id = some p) (hactive : p.active = true) {a : PoolId → Nat} (hself : a id = 0)
    (hbelow : ∀ c ∈ f.children id, f.FitsUnder limit c a)
    (hlimit : 0 < p.maxLimit → f.load a id ≤ p.maxLimit - p.totalCount) :
    f.FitsUnder limit id a := by
  refine ⟨?_, ?_, ?_⟩
  · intro x hx hne
    rcases hf.mem_subtree_cases hx with rfl | ⟨c, hc, hx⟩
    · exact absurd hself hne
    · exact hf.openLeaf_of_child hc hp hactive ((hbelow c hc).support x hx hne)
  · intro x hx q hq hleaf
    rcases hf.mem_subtree_cases hx with rfl | ⟨c, hc, hx⟩
    · rw [hself]
      exact Nat.zero_le _
    · exact (hbelow c hc).leaf_le x hx q hq hleaf
  · intro g hg q hq hgroup hmax
    rcases hf.mem_subtree_cases hg with rfl | ⟨c, hc, hg⟩
    · obtain rfl := Option.some.inj (hp.symm.trans hq)
      exact hlimit hmax
    · exact (hbelow c hc).group_le g hg q hq hgroup hmax

theorem WellLinked.exists_fits {id : PoolId} {t : Nat} (ht : t ≤ f.capacity id) :
    ∃ a, f.FitsUnder Pool.headroom id a ∧ f.load a id = t := by
  induction id using hf.down_induction generalizing t with
  | step id ih =>
      by_cases hnone : t = 0
      · exact ⟨fun _ => 0, fitsUnder_zero f _ id, (load_eq_zero (fun _ _ => rfl)).trans hnone.symm⟩
      cases hp : f.get? id with
      | none =>
          rw [capacity_of_unknown hp] at ht
          omega
      | some p =>
          rw [hf.capacity_of_get hp, Pool.capacityOver] at ht
          cases hactive : p.active with
          | false =>
              rw [hactive, Bool.not_false, if_pos rfl] at ht
              omega
          | true =>
              rw [hactive, Bool.not_true, if_neg Bool.false_ne_true] at ht
              by_cases hleaf : p.isLeaf = true
              · rw [if_pos hleaf] at ht
                exact ⟨_, hf.fitsUnder_leaf hp hactive hleaf ht, hf.load_leaf hp hleaf _⟩
              · rw [if_neg hleaf] at ht
                have hbelow : t ≤ ((f.children id).map f.capacity).sum := by
                  rw [children_of_get hp]
                  split at ht
                  · exact ht
                  · exact Nat.le_trans ht (Nat.min_le_right _ _)
                have hlimit : 0 < p.maxLimit → t ≤ p.maxLimit - p.totalCount := by
                  intro hmax
                  rw [if_neg (Nat.ne_of_gt hmax)] at ht
                  exact Nat.le_trans ht (Nat.min_le_left _ _)
                obtain ⟨b, hle, rfl⟩ := exists_parts (hf.children_nodup id) f.capacity hbelow
                obtain ⟨a, hself, hfits⟩ := hf.exists_assembled
                  (P := fun c a => f.FitsUnder Pool.headroom c a ∧ f.load a c = b c)
                  (fun h hab => ⟨hf.fitsUnder_congr h.1 hab, (load_congr hab).symm.trans h.2⟩)
                  (fun c hc => ih c hc (hle c hc))
                have hload := hf.load_of_children (contains_iff.mpr ⟨p, hp⟩) hself
                  (fun c hc => (hfits c hc).2)
                exact ⟨a, hf.fitsUnder_of_children hp hactive hself (fun c hc => (hfits c hc).1)
                  (fun hmax => hload ▸ hlimit hmax), hload⟩

/-! ## The greatest total -/

/-- The budget from above is what every maximum above leaves. -/
theorem WellLinked.le_budgetAbove_iff {id : PoolId} {t : Nat} :
    t ≤ f.budgetAbove id ↔ t ≤ Pool.unbounded ∧ ∀ g ∈ f.ancestors id, ∀ p, f.get? g = some p →
      0 < p.maxLimit → t ≤ p.maxLimit - p.totalCount := by
  rw [le_budgetAbove]
  refine and_congr_right (fun hsmall => forall₂_congr (fun g hg => forall₂_congr ?_))
  intro p hp
  -- above a pool there are only groups
  have hgroup : p.isLeaf = false := by
    obtain ⟨c, hc⟩ := hf.exists_child_of_ancestor hg
    rw [Bool.eq_false_iff, ne_eq, isLeaf_iff hp]
    exact List.ne_nil_of_mem hc
  by_cases hmax : p.maxLimit = 0
  · simp [Pool.maxRoom, hmax, hgroup, hsmall]
  · simp [Pool.maxRoom, hmax, Nat.pos_of_ne_zero hmax]

/-- Totals that are limited by a number and by the maximums above have a greatest one, which is the
number under the budget from above, as far as it fits 32 bits. -/
theorem WellLinked.exists_isGreatest_of_limits {id : PoolId} {most : Nat} {totals : Set Nat}
    (h : ∀ t, t ∈ totals ↔ t ≤ most ∧ ∀ g ∈ f.ancestors id, ∀ p, f.get? g = some p →
      0 < p.maxLimit → t ≤ p.maxLimit - p.totalCount) :
    ∃ n, IsGreatest totals n ∧ min (f.budgetAbove id) most = min Pool.unbounded n := by
  have hzero : 0 ∈ totals := (h 0).mpr ⟨Nat.zero_le _, fun _ _ _ _ _ => Nat.zero_le _⟩
  have hbound : BddAbove totals := ⟨most, fun t ht => ((h t).mp ht).1⟩
  have hgreatest : IsGreatest totals (sSup totals) :=
    ⟨Nat.sSup_mem ⟨0, hzero⟩ hbound, fun t ht => le_csSup hbound ht⟩
  have hdown : ∀ t, t ∈ totals ↔ t ≤ sSup totals := by
    refine fun t => ⟨fun ht => hgreatest.2 ht, fun ht => (h t).mpr ?_⟩
    obtain ⟨hmost, habove⟩ := (h _).mp hgreatest.1
    exact ⟨ht.trans hmost, fun g hg p hp hmax => ht.trans (habove g hg p hp hmax)⟩
  refine ⟨_, hgreatest, eq_of_forall_le_iff (fun t => ?_)⟩
  rw [Nat.le_min, Nat.le_min, hf.le_budgetAbove_iff, ← hdown, h, and_assoc,
    and_comm (a := t ≤ most)]

/-- The totals that can be distributed are those up to the capacity that every limit above
leaves room for. -/
theorem WellLinked.exists_feasible_iff {id : PoolId} {t : Nat} :
    (∃ a, f.Feasible id a ∧ f.load a id = t) ↔
      t ≤ f.capacity id ∧ ∀ g ∈ f.ancestors id, ∀ p, f.get? g = some p → 0 < p.maxLimit →
        t ≤ p.maxLimit - p.totalCount := by
  constructor
  · rintro ⟨a, ha, rfl⟩
    exact ⟨hf.load_le_capacity (fits_iff_under.mp ha.toFits), ha.above_le⟩
  · rintro ⟨hcap, habove⟩
    obtain ⟨a, ha, rfl⟩ := hf.exists_fits hcap
    exact ⟨a, ⟨fits_iff_under.mpr ha, habove⟩, rfl⟩

/-- The room of a pool is the greatest total that can be distributed, as far as it fits 32 bits. -/
theorem WellLinked.exists_isGreatest (id : PoolId) :
    ∃ n, IsGreatest {t | ∃ a, f.Feasible id a ∧ f.load a id = t} n ∧
      f.room id .maximum = min Pool.unbounded n := by
  rw [room_eq_min]
  exact hf.exists_isGreatest_of_limits (fun t => hf.exists_feasible_iff)

end

end Forest

end SpawnForest
