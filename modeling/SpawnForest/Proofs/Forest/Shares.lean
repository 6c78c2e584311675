import Mathlib.Algebra.BigOperators.Group.Finset.Basic
import SpawnForest.Proofs.Forest.Floors
import SpawnForest.Proofs.Forest.Optimum

/-!
# Room up to the minimums as an optimum

At the minimum a leaf with limits of its own takes what it lacks to its minimum,
and leaves that inherited their limits share what the group they inherited from
lacks to its own. So a distribution has one more kind of limit
(`FeasibleFloors`): all that is drawn on one group together, wherever the leaves
are. The minimum of a group is one limit and is met only once, however the
leaves that share it are spread over unbounded groups.

As with the maximums, both directions go from parents to children. What has to
be followed beside the total of a subtree is how much of it is drawn on the
group above (`drawnAbove`): the totals are then those with a part up to the own
need and a drawn part up to the shared one (`WellLinked.load_le_need`,
`WellLinked.exists_fitsFloors`).
-/

namespace SpawnForest

/-- What a leaf can take at the minimum: what it lacks to its own minimum, or, if its limits are
inherited, whatever its maximum leaves. -/
def Pool.lack (p : Pool) : Nat :=
  if p.inheritsLimits then p.maxLimit - p.ownCount else p.minLimit - p.ownCount

namespace Forest

/-! ## The group that bounds a pool -/

/-- The nearest group above a pool that has a maximum. -/
def boundingGroup? (f : Forest) (id : PoolId) : Option PoolId :=
  (f.ancestors id).find? (fun g => (f.get? g).any (fun p => 0 < p.maxLimit))

/-- Limits are inherited from somewhere. -/
def Sheltered (f : Forest) : Prop :=
  ∀ id p, f.get? id = some p → p.inheritsLimits = true → f.boundingGroup? id ≠ none

theorem boundingAncestor?_eq (f : Forest) (id : PoolId) :
    f.boundingAncestor? id = (f.boundingGroup? id).bind f.get? := by
  rw [boundingAncestor?, boundingGroup?, List.find?_filterMap]

theorem maxLimit_of_boundingGroup {f : Forest} {id g : PoolId} {p : Pool}
    (h : f.boundingGroup? id = some g) (hp : f.get? g = some p) : 0 < p.maxLimit := by
  have hbounded := List.find?_some h
  simpa [hp] using hbounded

theorem mem_ancestors_of_boundingGroup {f : Forest} {id g : PoolId}
    (h : f.boundingGroup? id = some g) : g ∈ f.ancestors id := List.mem_of_find?_eq_some h

section

variable {f : Forest} (hf : f.WellLinked)

include hf

/-- A child is bounded by its parent, or by the group that bounds the parent. -/
theorem WellLinked.boundingGroup?_of_child {c id : PoolId} {p : Pool} (hc : c ∈ f.children id)
    (hp : f.get? id = some p) :
    f.boundingGroup? c = if 0 < p.maxLimit then some id else f.boundingGroup? id := by
  rw [boundingGroup?, hf.ancestors_of_child hc, List.find?_cons, hp]
  by_cases hmax : 0 < p.maxLimit <;> simp [hmax, boundingGroup?]

/-- The group that bounds a pool of a subtree is that of the whole subtree or lies in it. -/
theorem WellLinked.boundingGroup?_cases {id x : PoolId} (hx : x ∈ f.subtree id) :
    f.boundingGroup? x = f.boundingGroup? id ∨ ∃ g ∈ f.subtree id, f.boundingGroup? x = some g := by
  induction id using hf.down_induction with
  | step id ih =>
      rcases hf.mem_subtree_cases hx with rfl | ⟨c, hc, hx⟩
      · exact .inl rfl
      · obtain ⟨p, hp⟩ := contains_iff.mp (contains_of_child hc)
        have hchild := hf.boundingGroup?_of_child hc hp
        rcases ih c hc hx with hsame | ⟨g, hg, hinside⟩
        · split at hchild
          · exact .inr ⟨id, hf.self_mem_subtree (contains_of_child hc), hsame.trans hchild⟩
          · exact .inl (hsame.trans hchild)
        · exact .inr ⟨g, hf.subtree_child_subset hc hg, hinside⟩

theorem WellLinked.boundingGroup?_not_mem {id g : PoolId} (h : f.boundingGroup? id = some g) :
    g ∉ f.subtree id := by
  intro hmem
  have hup := mem_ancestors_of_boundingGroup h
  have hself : id ∈ f.ancestors id := by
    rcases (hf.mem_subtree.mp hmem).2 with rfl | hdown
    · exact hup
    · exact hf.ancestors_subset hup hdown
  exact hf.not_mem_climb _ id hself

end

/-! ## Distributions at the minimum -/

/-- The part of a distribution that is drawn on the minimum of a group: what goes to leaves that
inherited their limits from it. -/
def drawnOn (f : Forest) (a : PoolId → Nat) (g : Option PoolId) (x : PoolId) : Nat :=
  if (f.get? x).any (·.inheritsLimits) ∧ f.boundingGroup? x = g then a x else 0

/-- Amounts for the open leaves below a pool that respect every limit at the minimum, in its
subtree and above it. -/
structure FeasibleFloors (f : Forest) (id : PoolId) (a : PoolId → Nat) : Prop
    extends FitsUnder f Pool.lack id a where
  floor_le : ∀ g p, f.get? g = some p →
    f.load (f.drawnOn a (some g)) id ≤ p.minLimit - p.totalCount
  above_le : ∀ g ∈ f.ancestors id, ∀ p, f.get? g = some p → 0 < p.maxLimit →
    f.load a id ≤ p.maxLimit - p.totalCount

/-- The same for the limits inside of the subtree alone. -/
structure FitsFloors (f : Forest) (id : PoolId) (a : PoolId → Nat) : Prop
    extends FitsUnder f Pool.lack id a where
  floor_le : ∀ g ∈ f.subtree id, ∀ p, f.get? g = some p →
    f.load (f.drawnOn a (some g)) g ≤ p.minRoom

/-- What the subtree of a pool draws on the minimum of the group that bounds it. -/
def drawnAbove (f : Forest) (a : PoolId → Nat) (id : PoolId) : Nat :=
  f.load (f.drawnOn a (f.boundingGroup? id)) id

theorem drawnOn_eq_zero {f : Forest} {a : PoolId → Nat} {g : Option PoolId} {x : PoolId}
    (h : a x = 0) : f.drawnOn a g x = 0 := by
  rw [drawnOn, h, ite_self]

theorem drawnOn_of_ne {f : Forest} {a : PoolId → Nat} {g : Option PoolId} {x : PoolId}
    (h : f.boundingGroup? x ≠ g) : f.drawnOn a g x = 0 := if_neg (fun hg => h hg.2)

theorem drawnOn_congr {f : Forest} {a b : PoolId → Nat} {g : Option PoolId} {x : PoolId}
    (h : a x = b x) : f.drawnOn a g x = f.drawnOn b g x := by
  rw [drawnOn, drawnOn, h]

section

variable {f : Forest} (hf : f.WellLinked)

include hf

/-- What is given only below one pool of a subtree is given to that pool. -/
theorem WellLinked.load_eq_of_below {id g : PoolId} {a : PoolId → Nat} (hg : g ∈ f.subtree id)
    (hzero : ∀ x ∈ f.subtree id, x ∉ f.subtree g → a x = 0) : f.load a id = f.load a g := by
  rw [load, load, ← List.sum_toFinset _ (hf.nodup_subtree id),
    ← List.sum_toFinset _ (hf.nodup_subtree g)]
  symm
  refine Finset.sum_subset ?_ ?_
  · intro x hx
    rw [List.mem_toFinset] at hx ⊢
    exact hf.subtree_trans hg hx
  · intro x hx hout
    rw [List.mem_toFinset] at hx hout
    exact hzero x hx hout

/-- All leaves that draw on a group lie below it. -/
theorem WellLinked.load_drawnOn {id g : PoolId} (hg : g ∈ f.subtree id) (a : PoolId → Nat) :
    f.load (f.drawnOn a (some g)) id = f.load (f.drawnOn a (some g)) g := by
  refine hf.load_eq_of_below hg (fun x hx hout => drawnOn_of_ne (fun h => hout ?_))
  exact hf.mem_subtree.mpr ⟨(hf.mem_subtree.mp hx).1, .inr (mem_ancestors_of_boundingGroup h)⟩

theorem WellLinked.load_drawnOn_children {id : PoolId} (hid : f.contains id = true)
    {a : PoolId → Nat} (hself : a id = 0) (g : Option PoolId) :
    f.load (f.drawnOn a g) id = ((f.children id).map (f.load (f.drawnOn a g))).sum :=
  hf.load_of_children hid (drawnOn_eq_zero hself) (fun _ _ => rfl)

/-! ### What is drawn on the group above -/

theorem WellLinked.drawnAbove_leaf {id : PoolId} {p : Pool} (hp : f.get? id = some p)
    (hleaf : p.isLeaf = true) (a : PoolId → Nat) :
    f.drawnAbove a id = if p.inheritsLimits then a id else 0 := by
  rw [drawnAbove, hf.load_leaf hp hleaf, drawnOn, hp]
  simp

/-- An unbounded group draws what its children draw. -/
theorem WellLinked.drawnAbove_unbounded {id : PoolId} {p : Pool} (hp : f.get? id = some p)
    (hmax : p.maxLimit = 0) {a : PoolId → Nat} (hself : a id = 0) :
    f.drawnAbove a id = ((f.children id).map (f.drawnAbove a)).sum := by
  rw [drawnAbove, hf.load_drawnOn_children (contains_iff.mpr ⟨p, hp⟩) hself]
  congr 1
  refine List.map_congr_left ?_
  intro c hc
  rw [drawnAbove, hf.boundingGroup?_of_child hc hp, if_neg (by omega)]

/-- The children of a group with a maximum draw on the group. -/
theorem WellLinked.drawnOn_bounded {id : PoolId} {p : Pool} (hp : f.get? id = some p)
    (hmax : 0 < p.maxLimit) {a : PoolId → Nat} (hself : a id = 0) :
    f.load (f.drawnOn a (some id)) id = ((f.children id).map (f.drawnAbove a)).sum := by
  rw [hf.load_drawnOn_children (contains_iff.mpr ⟨p, hp⟩) hself]
  congr 1
  refine List.map_congr_left ?_
  intro c hc
  rw [drawnAbove, hf.boundingGroup?_of_child hc hp, if_pos hmax]

/-- A group with a maximum draws nothing on the groups above it. -/
theorem WellLinked.drawnAbove_bounded {id : PoolId} {p : Pool} (hp : f.get? id = some p)
    (hmax : 0 < p.maxLimit) {a : PoolId → Nat} (hself : a id = 0) : f.drawnAbove a id = 0 := by
  refine load_eq_zero (fun x hx => ?_)
  have hid := contains_iff.mpr ⟨p, hp⟩
  rcases hf.mem_subtree_cases hx with rfl | ⟨c, hc, hx⟩
  · exact drawnOn_eq_zero hself
  · refine drawnOn_of_ne (fun habove => ?_)
    have hchild := hf.boundingGroup?_of_child hc hp
    rw [if_pos hmax] at hchild
    rcases hf.boundingGroup?_cases hx with hsame | ⟨g, hg, hinside⟩
    · exact hf.boundingGroup?_not_mem (habove.symm.trans (hsame.trans hchild))
        (hf.self_mem_subtree hid)
    · exact hf.boundingGroup?_not_mem (habove.symm.trans hinside) (hf.subtree_child_subset hc hg)

/-- Nothing is drawn on a leaf or on an unbounded group. -/
theorem WellLinked.drawnOn_self_eq_zero {id : PoolId} {p : Pool} (hp : f.get? id = some p)
    (h : p.isLeaf = true ∨ p.maxLimit = 0) (a : PoolId → Nat) :
    f.load (f.drawnOn a (some id)) id = 0 := by
  rcases h with hleaf | hmax
  · rw [hf.load_leaf hp hleaf]
    exact drawnOn_of_ne (fun h =>
      hf.boundingGroup?_not_mem h (hf.self_mem_subtree (contains_iff.mpr ⟨p, hp⟩)))
  · refine load_eq_zero (fun x _ => drawnOn_of_ne (fun h => ?_))
    have hpos := maxLimit_of_boundingGroup h hp
    omega

/-! ## No distribution exceeds the need -/

theorem WellLinked.fitsFloors_child {id c : PoolId} {a : PoolId → Nat} (hc : c ∈ f.children id)
    (h : f.FitsFloors id a) : f.FitsFloors c a :=
  ⟨hf.fitsUnder_child hc h.toFitsUnder, fun g hg => h.floor_le g (hf.subtree_child_subset hc hg)⟩

theorem WellLinked.load_le_need {id : PoolId} {a : PoolId → Nat} (h : f.FitsFloors id a) :
    f.drawnAbove a id ≤ (f.need id).shared ∧
      f.load a id ≤ (f.need id).own + f.drawnAbove a id := by
  induction id using hf.down_induction with
  | step id ih =>
      cases hp : f.get? id with
      | none =>
          rw [drawnAbove, load, load, subtree_of_unknown (not_contains_iff.mpr hp)]
          exact ⟨Nat.zero_le _, Nat.zero_le _⟩
      | some p =>
          have hid := contains_iff.mpr ⟨p, hp⟩
          have hself := hf.self_mem_subtree hid
          rw [hf.need_of_get hp, Pool.needOver]
          cases hactive : p.active with
          | false =>
              have hzero := hf.zero_of_inactive h.toFitsUnder hp hactive
              rw [drawnAbove, load_eq_zero hzero,
                load_eq_zero (fun x hx => drawnOn_eq_zero (hzero x hx))]
              exact ⟨Nat.zero_le _, Nat.zero_le _⟩
          | true =>
              rw [Bool.not_true, if_neg Bool.false_ne_true]
              by_cases hleaf : p.isLeaf = true
              · have hle := h.leaf_le id hself p hp hleaf
                rw [if_pos hleaf, hf.drawnAbove_leaf hp hleaf, hf.load_leaf hp hleaf]
                unfold Pool.lack at hle
                split <;> simp_all
              · rw [if_neg hleaf]
                have hnone := hf.zero_of_group h.toFitsUnder hp hleaf
                have hdrawn : ((f.children id).map (f.drawnAbove a)).sum ≤
                    ((p.children.map f.need).map (·.shared)).sum := by
                  rw [List.map_map, ← children_of_get hp]
                  exact List.sum_le_sum (fun c hc => (ih c hc (hf.fitsFloors_child hc h)).1)
                have hbelow : f.load a id ≤ ((p.children.map f.need).map (·.own)).sum +
                    ((f.children id).map (f.drawnAbove a)).sum := by
                  rw [hf.load_of_children hid hnone (fun _ _ => rfl), List.map_map,
                    ← children_of_get hp, ← List.sum_map_add]
                  exact List.sum_le_sum (fun c hc => (ih c hc (hf.fitsFloors_child hc h)).2)
                by_cases hmax : p.maxLimit = 0
                · rw [if_pos hmax, hf.drawnAbove_unbounded hp hmax hnone]
                  exact ⟨hdrawn, hbelow⟩
                · have hpos := Nat.pos_of_ne_zero hmax
                  have hfloor := h.floor_le id hself p hp
                  rw [hf.drawnOn_bounded hp hpos hnone] at hfloor
                  rw [Bool.not_eq_true] at hleaf
                  have hlimit := h.group_le id hself p hp hleaf hpos
                  rw [if_neg hmax, hf.drawnAbove_bounded hp hpos hnone]
                  dsimp only
                  omega

/-! ## Every total up to the need is distributed -/

theorem WellLinked.fitsFloors_congr {id : PoolId} {a b : PoolId → Nat} (h : f.FitsFloors id a)
    (hab : ∀ x ∈ f.subtree id, a x = b x) : f.FitsFloors id b := by
  refine ⟨hf.fitsUnder_congr h.toFitsUnder hab, fun g hg => ?_⟩
  rw [← hf.load_of_congr hg (fun x hx => drawnOn_congr (hab x hx))]
  exact h.floor_le g hg

theorem WellLinked.fitsFloors_leaf {id : PoolId} {p : Pool} (hp : f.get? id = some p)
    (hactive : p.active = true) (hleaf : p.isLeaf = true) {t : Nat} (ht : t ≤ p.lack) :
    f.FitsFloors id (fun _ => t) := by
  refine ⟨hf.fitsUnder_leaf hp hactive hleaf ht, fun g hg q hq => ?_⟩
  rw [hf.subtree_leaf hp hleaf, List.mem_singleton] at hg
  subst hg
  rw [hf.drawnOn_self_eq_zero hp (.inl hleaf)]
  exact Nat.zero_le _

theorem WellLinked.fitsFloors_of_children {id : PoolId} {p : Pool} (hp : f.get? id = some p)
    (hactive : p.active = true) {a : PoolId → Nat} (hself : a id = 0)
    (hbelow : ∀ c ∈ f.children id, f.FitsFloors c a)
    (hlimit : 0 < p.maxLimit → f.load a id ≤ p.maxLimit - p.totalCount)
    (hfloor : 0 < p.maxLimit → f.load (f.drawnOn a (some id)) id ≤ p.minRoom) :
    f.FitsFloors id a := by
  refine ⟨hf.fitsUnder_of_children hp hactive hself (fun c hc => (hbelow c hc).toFitsUnder) hlimit,
    fun g hg q hq => ?_⟩
  rcases hf.mem_subtree_cases hg with rfl | ⟨c, hc, hg⟩
  · obtain rfl := Option.some.inj (hp.symm.trans hq)
    by_cases hmax : 0 < p.maxLimit
    · exact hfloor hmax
    · rw [hf.drawnOn_self_eq_zero hp (.inr (by omega))]
      exact Nat.zero_le _
  · exact (hbelow c hc).floor_le g hg q hq

omit hf in
theorem fitsFloors_zero (f : Forest) (id : PoolId) : f.FitsFloors id (fun _ => 0) := by
  refine ⟨fitsUnder_zero f _ id, fun g _ p _ => ?_⟩
  rw [load_eq_zero (fun x _ => drawnOn_eq_zero rfl)]
  exact Nat.zero_le _

omit hf in
theorem exists_split {t a b c : Nat} (h : t ≤ a + min b c) :
    ∃ x y, x + y = t ∧ x ≤ a ∧ y ≤ b ∧ y ≤ c :=
  ⟨min t a, t - min t a, by omega, by omega, by omega, by omega⟩

/-- If the children distribute whatever they lack, they distribute together what they lack
together. -/
theorem WellLinked.exists_fitsFloors_children {id : PoolId} (hid : f.contains id = true)
    {own shared : Nat} (hown : own ≤ ((f.children id).map fun c => (f.need c).own).sum)
    (hshared : shared ≤ ((f.children id).map fun c => (f.need c).shared).sum)
    (h : ∀ c ∈ f.children id, ∀ {own shared}, own ≤ (f.need c).own → shared ≤ (f.need c).shared →
      ∃ a, f.FitsFloors c a ∧ f.load a c = own + shared ∧ f.drawnAbove a c = shared) :
    ∃ a, a id = 0 ∧ (∀ c ∈ f.children id, f.FitsFloors c a) ∧ f.load a id = own + shared ∧
      ((f.children id).map (f.drawnAbove a)).sum = shared := by
  obtain ⟨b, hb, rfl⟩ := exists_parts (hf.children_nodup id) _ hown
  obtain ⟨d, hd, rfl⟩ := exists_parts (hf.children_nodup id) _ hshared
  obtain ⟨a, hself, ha⟩ := hf.exists_assembled
    (P := fun c a => f.FitsFloors c a ∧ f.load a c = b c + d c ∧ f.drawnAbove a c = d c)
    (fun h hab => ⟨hf.fitsFloors_congr h.1 hab, (load_congr hab).symm.trans h.2.1,
      (load_congr (fun x hx => drawnOn_congr (hab x hx))).symm.trans h.2.2⟩)
    (fun c hc => h c hc (hb c hc) (hd c hc))
  refine ⟨a, hself, fun c hc => (ha c hc).1, ?_, ?_⟩
  · rw [hf.load_of_children hid hself (fun c hc => (ha c hc).2.1), List.sum_map_add]
  · rw [List.map_congr_left (fun c hc => (ha c hc).2.2)]

/-- A distribution inside of a subtree with a given part that is not drawn on the group above, and a
given part that is. -/
theorem WellLinked.exists_fitsFloors {id : PoolId} {own shared : Nat} (hown : own ≤ (f.need id).own)
    (hshared : shared ≤ (f.need id).shared) :
    ∃ a, f.FitsFloors id a ∧ f.load a id = own + shared ∧ f.drawnAbove a id = shared := by
  induction id using hf.down_induction generalizing own shared with
  | step id ih =>
      by_cases hnone : own + shared = 0
      · obtain ⟨rfl, rfl⟩ := Nat.add_eq_zero_iff.mp hnone
        exact ⟨fun _ => 0, fitsFloors_zero f id, load_eq_zero (fun _ _ => rfl),
          load_eq_zero (fun _ _ => drawnOn_eq_zero rfl)⟩
      cases hp : f.get? id with
      | none =>
          rw [need_of_unknown hp] at hown hshared
          dsimp only at hown hshared
          omega
      | some p =>
          have hid := contains_iff.mpr ⟨p, hp⟩
          rw [hf.need_of_get hp, Pool.needOver, List.map_map, List.map_map,
            ← children_of_get hp] at hown hshared
          by_cases hactive : p.active = true
          · simp only [hactive, Bool.not_true, Bool.false_eq_true, if_false] at hown hshared
            by_cases hleaf : p.isLeaf = true
            · simp only [hleaf, if_true] at hown hshared
              have hle : own + shared ≤ p.lack := by
                unfold Pool.lack
                split at hown <;> simp_all
              refine ⟨_, hf.fitsFloors_leaf hp hactive hleaf hle, hf.load_leaf hp hleaf _, ?_⟩
              rw [hf.drawnAbove_leaf hp hleaf]
              split at hown <;> simp_all
            · simp only [hleaf, Bool.false_eq_true, if_false] at hown hshared
              by_cases hmax : p.maxLimit = 0
              · -- the parts of the children are handed up as they are
                simp only [hmax, if_true] at hown hshared
                obtain ⟨a, hself, hfits, hload, hdrawn⟩ :=
                  hf.exists_fitsFloors_children hid hown hshared ih
                refine ⟨a, hf.fitsFloors_of_children hp hactive hself hfits ?_ ?_, hload, ?_⟩
                · omega
                · omega
                · rw [hf.drawnAbove_unbounded hp hmax hself, hdrawn]
              · -- a part of what the group lacks by itself is drawn on its own minimum
                have hpos := Nat.pos_of_ne_zero hmax
                simp only [hmax, if_false, Nat.le_zero] at hown hshared
                subst hshared
                rw [Nat.le_min] at hown
                obtain ⟨kept, drawn, rfl, hkept, hfloor, hdrawn⟩ := exists_split hown.2
                obtain ⟨a, hself, hfits, hload, hsum⟩ :=
                  hf.exists_fitsFloors_children hid hkept hdrawn ih
                refine ⟨a, hf.fitsFloors_of_children hp hactive hself hfits ?_ ?_, hload,
                  hf.drawnAbove_bounded hp hpos hself⟩
                · omega
                · rw [hf.drawnOn_bounded hp hpos hself]
                  omega
          · simp only [hactive, Bool.not_false, if_true, Nat.le_zero] at hown hshared
            omega

/-! ## The greatest total -/

omit hf in
theorem floorAbove_of_boundingGroup {id g : PoolId} {p : Pool} (h : f.boundingGroup? id = some g)
    (hp : f.get? g = some p) : f.floorAbove id = p.minRoom := by
  rw [floorAbove, boundingAncestor?_eq, h, Option.bind_some, hp]

/-- A subtree draws no more on the group above than that group lacks, and nothing if there is no
such group. -/
theorem WellLinked.drawnAbove_le_floorAbove (hsheltered : f.Sheltered) {id : PoolId}
    {a : PoolId → Nat} (h : f.FeasibleFloors id a) : f.drawnAbove a id ≤ f.floorAbove id := by
  cases hg : f.boundingGroup? id with
  | none =>
      rw [drawnAbove, hg, load_eq_zero (fun x _ => ?_)]
      · exact Nat.zero_le _
      · refine if_neg (fun ⟨hinherits, hunbounded⟩ => ?_)
        obtain ⟨p, hp, hinherits⟩ := (Option.any_eq_true _ _).mp hinherits
        exact hsheltered x p hp hinherits hunbounded
  | some g =>
      obtain ⟨p, hp⟩ := contains_iff.mp (hf.contains_ancestor (mem_ancestors_of_boundingGroup hg))
      rw [drawnAbove, hg, floorAbove_of_boundingGroup hg hp]
      exact h.floor_le g p hp

/-- A distribution inside of a subtree is feasible if the limits above leave room for it. -/
theorem WellLinked.feasibleFloors_of_fits {id : PoolId} {a : PoolId → Nat} (h : f.FitsFloors id a)
    (hfloor : f.drawnAbove a id ≤ f.floorAbove id)
    (habove : ∀ g ∈ f.ancestors id, ∀ p, f.get? g = some p → 0 < p.maxLimit →
      f.load a id ≤ p.maxLimit - p.totalCount) : f.FeasibleFloors id a := by
  refine ⟨h.toFitsUnder, fun g p hp => ?_, habove⟩
  by_cases hg : g ∈ f.subtree id
  · rw [hf.load_drawnOn hg]
    exact h.floor_le g hg p hp
  · by_cases hbounds : f.boundingGroup? id = some g
    · rwa [drawnAbove, hbounds, floorAbove_of_boundingGroup hbounds hp] at hfloor
    · rw [load_eq_zero (fun x hx => drawnOn_of_ne (fun h => ?_))]
      · exact Nat.zero_le _
      · rcases hf.boundingGroup?_cases hx with hsame | ⟨g', hg', hinside⟩
        · exact hbounds (hsame.symm.trans h)
        · obtain rfl := Option.some.inj (h.symm.trans hinside)
          exact hg hg'

theorem FeasibleFloors.fits {id : PoolId} {a : PoolId → Nat} (h : f.FeasibleFloors id a) :
    f.FitsFloors id a := by
  refine ⟨h.toFitsUnder, fun g hg p hp => ?_⟩
  rw [← hf.load_drawnOn hg]
  exact h.floor_le g p hp

/-- The totals that can be distributed at the minimum are those up to the need under the floor from
above that every limit above leaves room for. -/
theorem WellLinked.exists_feasibleFloors_iff (hsheltered : f.Sheltered) {id : PoolId} {t : Nat} :
    (∃ a, f.FeasibleFloors id a ∧ f.load a id = t) ↔
      t ≤ (f.need id).own + min (f.floorAbove id) (f.need id).shared ∧
        ∀ g ∈ f.ancestors id, ∀ p, f.get? g = some p → 0 < p.maxLimit →
          t ≤ p.maxLimit - p.totalCount := by
  constructor
  · rintro ⟨a, ha, rfl⟩
    have hneed := hf.load_le_need (ha.fits hf)
    have hfloor := hf.drawnAbove_le_floorAbove hsheltered ha
    exact ⟨by omega, ha.above_le⟩
  · rintro ⟨ht, habove⟩
    obtain ⟨own, drawn, rfl, hown, hfloor, hshared⟩ := exists_split ht
    obtain ⟨a, ha, hload, rfl⟩ := hf.exists_fitsFloors hown hshared
    exact ⟨a, hf.feasibleFloors_of_fits ha hfloor (hload ▸ habove), hload⟩

/-- The room at the minimum is the greatest total that can be distributed there, as far as it fits
32 bits. -/
theorem WellLinked.exists_isGreatest_floors (hsheltered : f.Sheltered) (id : PoolId) :
    ∃ n, IsGreatest {t | ∃ a, f.FeasibleFloors id a ∧ f.load a id = t} n ∧
      f.room id .minimum = min Pool.unbounded n := by
  rw [room_minimum]
  exact hf.exists_isGreatest_of_limits (fun t => hf.exists_feasibleFloors_iff hsheltered)

end

end Forest

end SpawnForest
