import Mathlib.Data.List.Perm.Subperm
import Mathlib.Data.List.Nodup
import SpawnForest.Forest.Basic
import SpawnForest.Proofs.Table.Views

/-!
# The links of a forest

Pools name their parents and their children by number, so that the links form
a forest is a property of the whole table: `WellLinked` says that children and
parents agree, that no child is listed twice, and that every parent stands
strictly less deep than its children.

Walks carry a bound on their length. In a well-linked forest the bound is never
reached, because the pools on a way up are all different (`length_climb_le`);
the rest of the library uses the two equations without a bound,
`ancestors_of_parent` and `ancestors_of_top`, and the induction from parents to
children, `WellLinked.up_induction`.

Forests are compared through views: `Alike view f g` says that `f` and `g` hold
the same pools as far as `view` shows them. Most operations change one part of
a pool and are alike through every view that leaves this part out.
-/

namespace SpawnForest

/-- The part of a pool that links it to others. -/
def Pool.links (p : Pool) : Option PoolId × List PoolId := (p.parent, p.children)

namespace Forest

/-! ## Views -/

theorem get?_modify (f : Forest) (id other : PoolId) (change : Pool → Pool) :
    (f.modify id change).get? other =
      if id = other then (f.get? other).map change else f.get? other := by
  rw [get?, modify, Table.get?_modify]
  simp only [Key.rank_eq_iff, get?]

theorem contains_iff {f : Forest} {id : PoolId} : f.contains id = true ↔ ∃ p, f.get? id = some p :=
  Option.isSome_iff_exists

theorem not_contains_iff {f : Forest} {id : PoolId} : f.contains id = false ↔ f.get? id = none := by
  rw [← Bool.not_eq_true, contains_iff, ← Option.ne_none_iff_exists', ne_eq, not_not]

theorem children_eq (f : Forest) (id : PoolId) :
    f.children id = ((f.get? id).map (·.children)).getD [] := by
  unfold children
  cases f.get? id <;> rfl

theorem mem_all {f : Forest} {p : Pool} : p ∈ f.all ↔ ∃ id, f.get? id = some p :=
  Table.mem_values

/-- Two forests hold the same pools, as far as `view` shows them. -/
def Alike {α : Type} (view : Pool → α) (f g : Forest) : Prop := f.pools.Alike view g.pools

namespace Alike

variable {α : Type} {view : Pool → α} {f g : Forest}

theorem refl (view : Pool → α) (f : Forest) : Alike view f f := Table.Alike.refl view f.pools

theorem get? (hfg : Alike view f g) (id : PoolId) : (f.get? id).map view = (g.get? id).map view :=
  hfg id

theorem find (hfg : Alike view f g) {id : PoolId} {p : Pool} (hp : f.get? id = some p) :
    ∃ q, g.get? id = some q ∧ view q = view p :=
  Table.Alike.find hfg hp

theorem contains (hfg : Alike view f g) (id : PoolId) : f.contains id = g.contains id :=
  Table.Alike.contains hfg id

theorem size (hfg : Alike view f g) : f.size = g.size := Table.Alike.size hfg

end Alike

/-- A change of a pool is not seen by a view that it leaves as it was. -/
theorem alike_modify {α : Type} {view : Pool → α} {f : Forest} {id : PoolId} {change : Pool → Pool}
    (hview : ∀ p, f.get? id = some p → view (change p) = view p) :
    Alike view f (f.modify id change) :=
  Table.alike_modify hview

theorem alike_map {α : Type} {view : Pool → α} {f : Forest} {change : PoolId → Pool → Pool}
    (hview : ∀ id p, f.get? id = some p → view (change id p) = view p) :
    Alike view f ⟨f.pools.map change⟩ :=
  Table.alike_map hview

/-! ## Walks look at links only -/

section

variable {f g : Forest} (hfg : Alike Pool.links f g)

include hfg

theorem Alike.parent? (id : PoolId) : f.parent? id = g.parent? id := by
  have h := congrArg (fun links => links.bind Prod.fst) (hfg id)
  simp only [Option.bind_map] at h
  exact h

theorem Alike.children (id : PoolId) : f.children id = g.children id := by
  have h := hfg.through Prod.snd id
  rw [Forest.children_eq, Forest.children_eq]
  exact congrArg (Option.getD · []) h

theorem Alike.climb (bound : Nat) (start : Option PoolId) :
    f.climb bound start = g.climb bound start := by
  induction bound generalizing start with
  | zero => cases start <;> rfl
  | succ bound ih =>
      cases start with
      | none => rfl
      | some id => rw [Forest.climb, Forest.climb, ih, hfg.parent? id]

theorem Alike.ancestors (id : PoolId) : f.ancestors id = g.ancestors id := by
  rw [Forest.ancestors, Forest.ancestors, hfg.size, hfg.parent? id, hfg.climb]

theorem Alike.descend (bound : Nat) (id : PoolId) : f.descend bound id = g.descend bound id := by
  induction bound generalizing id with
  | zero => rfl
  | succ bound ih =>
      rw [Forest.descend, Forest.descend, hfg.children id, funext ih]

theorem Alike.subtree (id : PoolId) : f.subtree id = g.subtree id := by
  rw [Forest.subtree, Forest.subtree, hfg.contains, hfg.size, hfg.descend]

theorem Alike.top (id : PoolId) : f.top id = g.top id := by
  rw [Forest.top, Forest.top, hfg.ancestors]

end

/-! ## Well-linked forests -/

/-- The links of a forest agree and lead nowhere in a circle. -/
structure WellLinked (f : Forest) : Prop where
  /-- A pool is listed by its parent and by no other pool. -/
  child_iff : ∀ {c q : PoolId}, c ∈ f.children q ↔ f.parent? c = some q
  children_nodup : ∀ q, (f.children q).Nodup
  grounded : ∃ depth : PoolId → Nat, ∀ {c q : PoolId}, f.parent? c = some q → depth q < depth c

theorem contains_of_parent {f : Forest} {c q : PoolId} (h : f.parent? c = some q) :
    f.contains c = true := by
  obtain ⟨p, hp, -⟩ := Option.bind_eq_some_iff.mp h
  exact contains_iff.mpr ⟨p, hp⟩

theorem contains_of_child {f : Forest} {c q : PoolId} (h : c ∈ f.children q) :
    f.contains q = true := by
  cases hp : f.get? q with
  | some p => exact contains_iff.mpr ⟨p, hp⟩
  | none =>
      rw [children, hp] at h
      cases h

theorem children_of_get {f : Forest} {id : PoolId} {p : Pool} (hp : f.get? id = some p) :
    f.children id = p.children := by
  rw [children, hp]

theorem parent?_of_get {f : Forest} {id : PoolId} {p : Pool} (hp : f.get? id = some p) :
    f.parent? id = p.parent := by
  simp [parent?, hp]

section

variable {f : Forest} (hf : f.WellLinked)

include hf

theorem WellLinked.contains_parent {c q : PoolId} (h : f.parent? c = some q) :
    f.contains q = true :=
  contains_of_child (hf.child_iff.mpr h)

theorem WellLinked.contains_child {c q : PoolId} (h : c ∈ f.children q) : f.contains c = true :=
  contains_of_parent (hf.child_iff.mp h)

/-- What holds of a pool as soon as it holds of its parent holds of every pool. -/
theorem WellLinked.up_induction {P : PoolId → Prop}
    (step : ∀ id, (∀ q, f.parent? id = some q → P q) → P id) (id : PoolId) : P id := by
  obtain ⟨depth, hdepth⟩ := hf.grounded
  induction hn : depth id using Nat.strongRecOn generalizing id with
  | _ n ih =>
      refine step id (fun q hq => ih (depth q) ?_ q rfl)
      exact hn ▸ hdepth hq

/-! ### Ways up -/

theorem WellLinked.contains_climb {bound : Nat} {id x : PoolId}
    (hx : x ∈ f.climb bound (f.parent? id)) : f.contains x = true := by
  induction bound generalizing id with
  | zero => cases hx
  | succ bound ih =>
      cases hq : f.parent? id with
      | none => rw [hq] at hx; cases hx
      | some q =>
          rw [hq, climb] at hx
          rcases List.mem_cons.mp hx with rfl | hx
          · exact hf.contains_parent hq
          · exact ih hx

omit hf in
/-- The way up leads to ever smaller depths. -/
theorem depth_climb_lt {depth : PoolId → Nat}
    (hdepth : ∀ {c q : PoolId}, f.parent? c = some q → depth q < depth c) {bound : Nat}
    {id x : PoolId} (hx : x ∈ f.climb bound (f.parent? id)) : depth x < depth id := by
  induction bound generalizing id with
  | zero => cases hx
  | succ bound ih =>
      cases hq : f.parent? id with
      | none => rw [hq] at hx; cases hx
      | some q =>
          rw [hq, climb] at hx
          have hless := hdepth hq
          rcases List.mem_cons.mp hx with rfl | hx
          · exact hless
          · exact Nat.lt_trans (ih hx) hless

theorem WellLinked.not_mem_climb (bound : Nat) (id : PoolId) :
    id ∉ f.climb bound (f.parent? id) := by
  obtain ⟨depth, hdepth⟩ := hf.grounded
  exact fun hmem => Nat.lt_irrefl _ (depth_climb_lt hdepth hmem)

theorem WellLinked.nodup_climb (bound : Nat) (start : Option PoolId) :
    (f.climb bound start).Nodup := by
  induction bound generalizing start with
  | zero => exact .nil
  | succ bound ih =>
      cases start with
      | none => exact .nil
      | some id =>
          unfold climb
          exact List.nodup_cons.mpr ⟨hf.not_mem_climb bound id, ih _⟩

/-- A way up has no more steps than there are pools. -/
theorem WellLinked.length_climb_le (bound : Nat) (id : PoolId) :
    (f.climb bound (f.parent? id)).length ≤ f.size := by
  have hsub : f.climb bound (f.parent? id) ⊆ f.pools.keys := fun x hx =>
    Table.mem_keys.mpr (hf.contains_climb hx)
  have hle := (List.subperm_of_subset (hf.nodup_climb bound _) hsub).length_le
  rwa [Table.keys, List.length_map] at hle

omit hf in
/-- A way up that ends before its bound does not depend on the bound. -/
theorem climb_of_length_lt {bound : Nat} {start : Option PoolId}
    (h : (f.climb bound start).length < bound) (more : Nat) :
    f.climb (bound + more) start = f.climb bound start := by
  induction bound generalizing start with
  | zero => exact absurd h (Nat.not_lt_zero _)
  | succ bound ih =>
      cases start with
      | none => rw [Nat.add_right_comm]; rfl
      | some id =>
          rw [climb, List.length_cons] at h
          rw [Nat.add_right_comm, climb, climb, ih (by omega)]

omit hf in
theorem ancestors_of_top {id : PoolId} (h : f.parent? id = none) : f.ancestors id = [] := by
  rw [ancestors, h]
  rfl

omit hf in
theorem contains_of_mem_ancestors {id x : PoolId} (h : x ∈ f.ancestors id) :
    f.contains id = true := by
  cases hq : f.parent? id with
  | none => rw [ancestors_of_top hq] at h; cases h
  | some q => exact contains_of_parent hq

theorem WellLinked.ancestors_of_parent {id q : PoolId} (h : f.parent? id = some q) :
    f.ancestors id = q :: f.ancestors q := by
  have hlen := hf.length_climb_le (f.size + 1) id
  rw [h, climb, List.length_cons] at hlen
  rw [ancestors, ancestors, h, climb, climb_of_length_lt (by omega) 1]

theorem WellLinked.contains_ancestor {id x : PoolId} (h : x ∈ f.ancestors id) :
    f.contains x = true :=
  hf.contains_climb h

theorem WellLinked.nodup_ancestors (id : PoolId) : (f.ancestors id).Nodup :=
  hf.nodup_climb _ _

/-- What stands above a pool above a third one stands above the third one as well. -/
theorem WellLinked.ancestors_subset {id x : PoolId} (hx : x ∈ f.ancestors id) :
    f.ancestors x ⊆ f.ancestors id := by
  induction id using hf.up_induction with
  | step id ih =>
      cases hq : f.parent? id with
      | none => rw [ancestors_of_top hq] at hx; cases hx
      | some q =>
          rw [hf.ancestors_of_parent hq] at hx ⊢
          rcases List.mem_cons.mp hx with rfl | hx
          · exact List.subset_cons_self _ _
          · exact fun y hy => List.mem_cons_of_mem _ (ih q hq hx hy)

theorem WellLinked.nodup_path (id : PoolId) : (id :: f.ancestors id).Nodup :=
  List.nodup_cons.mpr ⟨hf.not_mem_climb _ id, hf.nodup_ancestors id⟩

theorem WellLinked.length_ancestors_lt {id : PoolId} (h : f.contains id = true) :
    (f.ancestors id).length < f.size := by
  have hsub : id :: f.ancestors id ⊆ f.pools.keys := by
    intro x hx
    rcases List.mem_cons.mp hx with rfl | hx
    · exact Table.mem_keys.mpr h
    · exact Table.mem_keys.mpr (hf.contains_ancestor hx)
  have hle := (List.subperm_of_subset (hf.nodup_path id) hsub).length_le
  rw [List.length_cons, Table.keys, List.length_map] at hle
  exact hle

end

end Forest

end SpawnForest
