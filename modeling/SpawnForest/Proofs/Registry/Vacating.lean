import SpawnForest.Proofs.Registry.Custody
import SpawnForest.Proofs.Registry.Ledger

/-!
# Freeing the points of a pool

A pool is emptied from point to point: the entity goes, then the reservation,
and with it one from each count on the way up. Freeing several points, each of
them still as it was when its turn comes, is one change of the whole registry
(`foldl_vacate`), and with the remains that go afterwards it becomes `emptied`,
which says of every point and every entity what is left of it
(`Planned.despawnPool_eq`).
-/

namespace SpawnForest

/-- A point when some pools are emptied, with or without their remains. -/
def SpawnPoint.emptied (pools : List PoolId) (corpses : Bool) (p : SpawnPoint) : SpawnPoint :=
  { p with
    reservation := if p.isHeldBy pools then none else p.reservation
    entity := if p.isHeldBy pools then none else p.entity
    remains := if corpses then p.remains.filter (fun x => !pools.contains x.pool) else p.remains }

theorem SpawnPoint.emptied_false (pools : List PoolId) (p : SpawnPoint) :
    p.emptied pools false = if p.isHeldBy pools then p.detach.release else p := by
  unfold emptied
  by_cases h : p.isHeldBy pools = true
  · simp only [h, if_true]
    rfl
  · simp only [h]
    rfl

namespace Registry

variable {r : Registry} {pool : PoolId}

/-! ## Freeing points -/

/-- What freeing some points leaves: their reservations and entities are gone, and so is what was
counted for the ones and kept of the others. -/
def freed (r : Registry) (l : List SpawnPoint) : Registry :=
  { r with
    points := r.points.map (fun x p => if x ∈ l.map (·.id) then p.detach.release else p)
    forest := (l.filterMap (·.reservation)).foldl (fun f held => f.lose held.pool) r.forest
    live := r.live.filter (fun handle _ => !(l.filterMap (·.entity)).contains handle)
    host := (l.filterMap (·.entity)).foldl Host.destroy r.host }

theorem freed_nil (r : Registry) : r.freed [] = r := by
  have hpoints : r.points.map (fun x p =>
      if x ∈ ([] : List SpawnPoint).map (·.id) then p.detach.release else p) = r.points :=
    Table.ext_get? (fun x => by
      rw [Table.get?_map]
      cases r.points.get? x <;> rfl)
  have hlive : r.live.filter (fun handle _ =>
      !(([] : List SpawnPoint).filterMap (·.entity)).contains handle) = r.live :=
    Table.ext_get? (fun handle => by
      rw [Table.get?_filter_not_contains, List.filterMap_nil, if_neg List.not_mem_nil])
  rw [freed, hpoints, hlive]
  rfl

/-- A reserved point is freed as a whole. -/
theorem vacate_eq_freed {p : SpawnPoint} {held : Reservation} (hp : r.points.get? p.id = some p)
    (hheld : p.reservation = some held) : r.vacate p = r.freed [p] := by
  have hpoints : (r.destroyAt p).points.modify p.id (·.release) =
      r.points.map (fun x q => if x ∈ [p].map (·.id) then q.detach.release else q) := by
    refine Table.ext_get? (fun x => ?_)
    rw [Table.get?_map]
    by_cases hx : x = p.id
    · subst hx
      have hmem : p.id ∈ [p].map (·.id) := List.mem_singleton_self _
      rw [hp, Option.map_some, if_pos hmem]
      -- without an entity the point is not detached, and does not need to be
      rcases r.destroyAt_cases p with ⟨hentity, h⟩ | ⟨handle, -, h⟩
      · rw [h, Table.get?_modify_self hp, SpawnPoint.detach, ← hentity]
      · rw [h]
        exact Table.get?_modify_self (Table.get?_modify_self hp)
    · have hmem : x ∉ [p].map (·.id) := fun h => hx (List.mem_singleton.mp h)
      simp only [if_neg hmem, Option.map_id']
      rw [← vacate_points (r := r) hheld hx, vacate_eq r hheld]
      rfl
  have hlive : (r.destroyAt p).live =
      r.live.filter (fun handle _ => !([p].filterMap (·.entity)).contains handle) := by
    refine Table.ext_get? (fun handle => ?_)
    rw [Table.get?_filter_not_contains]
    rcases r.destroyAt_cases p with ⟨hentity, h⟩ | ⟨other, hentity, h⟩
    · simp [h, hentity]
    · simp [h, hentity, Table.get?_erase, Key.rank_eq_iff]
  have hhost : (r.destroyAt p).host = ([p].filterMap (·.entity)).foldl Host.destroy r.host := by
    rcases r.destroyAt_cases p with ⟨hentity, h⟩ | ⟨other, hentity, h⟩ <;>
      simp [h, hentity]
  have hrest : r.destroyAt p = { r with
      points := (r.destroyAt p).points, live := (r.destroyAt p).live
      host := (r.destroyAt p).host } := by
    rcases r.destroyAt_cases p with ⟨-, h⟩ | ⟨_, -, h⟩ <;> simp only [h]
    rfl
  rw [vacate_eq r hheld, freed, ← hpoints, ← hlive, ← hhost, hrest]
  simp [hheld, release, modifyPoint]

/-- One point goes before the others. -/
theorem freed_cons (r : Registry) (p : SpawnPoint) (l : List SpawnPoint) :
    (r.freed [p]).freed l = r.freed (p :: l) := by
  have hsplit : ∀ {β : Type} (f : SpawnPoint → Option β),
      (p :: l).filterMap f = [p].filterMap f ++ l.filterMap f := fun f =>
    List.filterMap_append (l := [p])
  have hpoints : (r.freed [p]).points.map (fun x q =>
      if x ∈ l.map (·.id) then q.detach.release else q) = (r.freed (p :: l)).points := by
    refine Table.ext_get? (fun x => ?_)
    simp only [freed, Table.get?_map, Option.map_map, List.map_cons, List.map_nil, List.mem_cons,
      List.not_mem_nil, or_false]
    refine Option.map_congr (fun q _ => ?_)
    by_cases hx : x = p.id <;> by_cases hmem : x ∈ l.map (·.id) <;>
      simp [hx, hmem, SpawnPoint.detach, SpawnPoint.release]
  have hlive : (r.freed [p]).live.filter (fun handle _ =>
      !(l.filterMap (·.entity)).contains handle) = (r.freed (p :: l)).live := by
    refine Table.ext_get? (fun handle => ?_)
    simp only [freed, Table.get?_filter_not_contains, hsplit, List.mem_append]
    by_cases hfirst : handle ∈ [p].filterMap (·.entity)
    · simp only [hfirst, true_or, if_true, ite_self]
    · simp only [hfirst, false_or, if_false]
  have hforest : (l.filterMap (·.reservation)).foldl (fun f held => f.lose held.pool)
      (r.freed [p]).forest = (r.freed (p :: l)).forest := by
    simp only [freed, hsplit, List.foldl_append]
  have hhost : (l.filterMap (·.entity)).foldl Host.destroy (r.freed [p]).host =
      (r.freed (p :: l)).host := by
    simp only [freed, hsplit, List.foldl_append]
  rw [freed, hpoints, hlive, hforest, hhost]
  rfl

/-- Reserved points are freed one after the other, each still being what it was. -/
theorem foldl_vacate {l : List SpawnPoint} (hids : (l.map (·.id)).Nodup)
    (hl : ∀ p ∈ l, r.points.get? p.id = some p ∧ p.reservation.isSome = true) :
    l.foldl vacate r = r.freed l := by
  induction l generalizing r with
  | nil => exact r.freed_nil.symm
  | cons p l ih =>
      obtain ⟨hnew, hids⟩ := List.nodup_cons.mp hids
      obtain ⟨hp, hheld⟩ := hl p List.mem_cons_self
      obtain ⟨held, hheld⟩ := Option.isSome_iff_exists.mp hheld
      have hrest : ∀ q ∈ l, (r.vacate p).points.get? q.id = some q ∧
          q.reservation.isSome = true := by
        intro q hq
        have hne : q.id ≠ p.id := fun h => hnew (List.mem_map.mpr ⟨q, hq, h⟩)
        rw [vacate_points hheld hne]
        exact hl q (List.mem_cons_of_mem _ hq)
      rw [List.foldl_cons, ih hids hrest, vacate_eq_freed hp hheld, freed_cons]

/-! ## The pool as a whole -/

/-- The points reserved by the subtree of a pool. -/
def heldPoints (r : Registry) (pool : PoolId) : List SpawnPoint :=
  r.points.values.filter (·.isHeldBy (r.forest.subtree pool))

/-- The entities on the points of the subtree. -/
def entitiesBelow (r : Registry) (pool : PoolId) : List EntityHandle :=
  (r.heldPoints pool).filterMap (·.entity)

/-- The remains of pools of the subtree, on whatever points they lie. -/
def remainsBelow (r : Registry) (pool : PoolId) : List Remains :=
  r.remains.filter (fun x => (r.forest.subtree pool).contains x.pool)

/-- What is destroyed when a pool is emptied. -/
def doomed (r : Registry) (pool : PoolId) (corpses : Bool) : List EntityHandle :=
  r.entitiesBelow pool ++ if corpses then (r.remainsBelow pool).map (·.handle) else []

/-- What emptying a pool leaves. -/
def emptied (r : Registry) (pool : PoolId) (corpses : Bool) : Registry :=
  { r with
    points := r.points.map (fun _ => SpawnPoint.emptied (r.forest.subtree pool) corpses)
    forest := ((r.heldPoints pool).filterMap (·.reservation)).foldl
      (fun f held => f.lose held.pool) r.forest
    live := r.live.filter (fun handle _ => !(r.entitiesBelow pool).contains handle)
    host := (r.doomed pool corpses).foldl Host.destroy r.host }

theorem Planned.mem_heldPoints (hr : r.Planned) {x : PointId} {p : SpawnPoint}
    (hp : r.points.get? x = some p) :
    x ∈ (r.heldPoints pool).map (·.id) ↔ p.isHeldBy (r.forest.subtree pool) = true := by
  constructor
  · intro hx
    obtain ⟨q, hq, rfl⟩ := List.mem_map.mp hx
    obtain ⟨hmem, hheld⟩ := List.mem_filter.mp hq
    obtain rfl := Option.some.inj (hp.symm.trans (hr.get_of_mem hmem))
    exact hheld
  · intro hheld
    exact List.mem_map.mpr ⟨p, List.mem_filter.mpr ⟨Table.mem_values.mpr ⟨x, hp⟩, hheld⟩,
      hr.points_named hp⟩

theorem Planned.freed_heldPoints (hr : r.Planned) (pool : PoolId) :
    r.freed (r.heldPoints pool) = r.emptied pool false := by
  have hpoints : (r.freed (r.heldPoints pool)).points = (r.emptied pool false).points := by
    refine Table.ext_get? (fun x => ?_)
    rw [freed, emptied, Table.get?_map, Table.get?_map]
    refine Option.map_congr (fun p hp => ?_)
    simp only [hr.mem_heldPoints hp, SpawnPoint.emptied_false]
  have hhost : (r.freed (r.heldPoints pool)).host = (r.emptied pool false).host := by
    simp [freed, emptied, doomed, entitiesBelow]
  show { r.freed (r.heldPoints pool) with
    points := (r.freed (r.heldPoints pool)).points
    host := (r.freed (r.heldPoints pool)).host } = _
  rw [hpoints, hhost]
  rfl

theorem remains_emptied_false (r : Registry) (pool : PoolId) :
    (r.emptied pool false).remains = r.remains :=
  remains_of_alike (Table.alike_map (fun _ _ _ => rfl))

/-- The remains go after the rest. -/
theorem clearRemains_emptied (r : Registry) (pool : PoolId) : ((r.emptied pool false).clearRemains
    (fun x => (r.forest.subtree pool).contains x.pool)).2 = r.emptied pool true := by
  have hpoints : (r.emptied pool false).points.map
      (fun _ p => p.clear (fun x => (r.forest.subtree pool).contains x.pool)) =
        (r.emptied pool true).points := by
    refine Table.ext_get? (fun x => ?_)
    simp only [emptied, Table.get?_map, Option.map_map]
    rfl
  have hhost := ((r.emptied pool false).clearRemains_eq
    (fun x => (r.forest.subtree pool).contains x.pool)).2.2
  rw [remains_emptied_false] at hhost
  have hdestroyed : (r.remains.filter (fun x => (r.forest.subtree pool).contains x.pool)).foldl
      (fun h x => h.destroy x.handle) (r.emptied pool false).host = (r.emptied pool true).host := by
    simp only [emptied, doomed, remainsBelow, List.foldl_append, List.foldl_map, if_true]
    rfl
  rw [hdestroyed] at hhost
  show { r.emptied pool false with
    points := (r.emptied pool false).points.map
      (fun _ p => p.clear (fun x => (r.forest.subtree pool).contains x.pool))
    host := ((r.emptied pool false).clearRemains
      (fun x => (r.forest.subtree pool).contains x.pool)).2.host } = _
  rw [hpoints, hhost]
  rfl

/-- Emptying a pool frees the points of its subtree, and nothing else happens. -/
theorem Planned.despawnPool_eq (hr : r.Planned) (pool : PoolId) (corpses : Bool) :
    r.despawnPool pool corpses =
      (heldIn r.points (r.forest.subtree pool), r.emptied pool corpses) := by
  have hfreed : (r.heldPoints pool).foldl vacate r = r.emptied pool false := by
    rw [← hr.freed_heldPoints]
    refine foldl_vacate (hr.ids_nodup.sublist (List.filter_sublist.map _)) (fun p hp => ?_)
    obtain ⟨hmem, hheldBy⟩ := List.mem_filter.mp hp
    obtain ⟨held, hheld, -⟩ := isHeldBy_iff.mp hheldBy
    exact ⟨hr.get_of_mem hmem, by rw [hheld]; rfl⟩
  have hcount : (r.heldPoints pool).length = heldIn r.points (r.forest.subtree pool) :=
    List.countP_eq_length_filter.symm
  cases corpses with
  | false => exact Prod.ext hcount hfreed
  | true =>
      rw [← clearRemains_emptied, ← hfreed]
      exact Prod.ext hcount rfl

/-! ## What stays -/

theorem alike_foldl_lose (l : List Reservation) (f : Forest) :
    Forest.Alike Pool.uncounted f (l.foldl (fun f held => f.lose held.pool) f) :=
  List.foldlRecOn l _ (motive := Forest.Alike Pool.uncounted f) (.refl _ _)
    (fun _ hg _ _ => hg.trans (Forest.alike_adjust _ _ _ _))

theorem alike_emptied (r : Registry) (pool : PoolId) (corpses : Bool) :
    Forest.Alike Pool.uncounted r.forest (r.emptied pool corpses).forest :=
  alike_foldl_lose _ _

theorem subtree_emptied (r : Registry) (pool : PoolId) (corpses : Bool) :
    (r.emptied pool corpses).forest.subtree pool = r.forest.subtree pool := by
  have hlinks : Forest.Alike Pool.links r.forest (r.emptied pool corpses).forest :=
    (r.alike_emptied pool corpses).through Pool.links
  exact (hlinks.subtree pool).symm

/-- Whatever is held afterwards was held before, and not by the subtree. -/
theorem isHeldBy_emptied (pools others : List PoolId) (corpses : Bool) (p : SpawnPoint) :
    (p.emptied pools corpses).isHeldBy others = (p.isHeldBy others && !p.isHeldBy pools) := by
  cases hpools : p.isHeldBy pools with
  | true =>
      rw [isHeldBy_of_free (by rw [SpawnPoint.emptied, hpools]; rfl), Bool.not_true, Bool.and_false]
  | false =>
      have hsame : (p.emptied pools corpses).reservation = p.reservation := by
        rw [SpawnPoint.emptied, hpools]
        rfl
      rw [SpawnPoint.isHeldBy, SpawnPoint.isHeldBy, hsame, Bool.not_false, Bool.and_true]

end Registry

end SpawnForest
