import SpawnForest.Proofs.Registry.Drainage
import SpawnForest.Proofs.Registry.Presence

/-!
# Emptying a pool

What emptying a pool leaves is said for every point and every entity
(`Planned.despawnPool_eq`), but of the forest only that counts went down there,
reservation by reservation. What they come to in the end follows from the
ledger, before and after: each subtree lies inside the emptied one, around it or
apart from it, and holds nothing any more, so many points less, or as many as
before (`Balanced.discounted`).

So emptying releases exactly the subtree of a pool, and emptying it again does
nothing (`Reachable.despawnPool_empties`).
-/

namespace SpawnForest

namespace Registry

variable {rows : PoolRows} {allowed : Operation → Prop} {r : Registry} {pool : PoolId}

/-! ## Counts -/

theorem heldIn_emptied (r : Registry) (pool : PoolId) (corpses : Bool) (pools : List PoolId) :
    heldIn (r.emptied pool corpses).points pools = r.points.values.countP
      (fun p => p.isHeldBy pools && !p.isHeldBy (r.forest.subtree pool)) := by
  have hvalues : (r.emptied pool corpses).points.values =
      r.points.values.map (SpawnPoint.emptied (r.forest.subtree pool) corpses) :=
    r.points.values_map _
  rw [heldIn, hvalues, List.countP_map]
  exact List.countP_congr (fun p _ => by rw [Function.comp_apply, isHeldBy_emptied])

theorem isHeldBy_mono {pools others : List PoolId} (h : pools ⊆ others) {p : SpawnPoint}
    (hheld : p.isHeldBy pools = true) : p.isHeldBy others = true := by
  obtain ⟨held, hheld, hmem⟩ := isHeldBy_iff.mp hheld
  exact isHeldBy_iff.mpr ⟨held, hheld, h hmem⟩

theorem heldIn_emptied_of_subset {corpses : Bool} {pools : List PoolId}
    (h : pools ⊆ r.forest.subtree pool) : heldIn (r.emptied pool corpses).points pools = 0 := by
  rw [heldIn_emptied, List.countP_eq_zero]
  intro p _ hheld
  rw [Bool.and_eq_true, Bool.not_eq_true'] at hheld
  rw [isHeldBy_mono h hheld.1] at hheld
  cases hheld.2

theorem heldIn_emptied_add {corpses : Bool} {pools : List PoolId}
    (h : r.forest.subtree pool ⊆ pools) : heldIn (r.emptied pool corpses).points pools
      + heldIn r.points (r.forest.subtree pool) = heldIn r.points pools := by
  have hboth : ∀ p : SpawnPoint, (p.isHeldBy pools && p.isHeldBy (r.forest.subtree pool)) =
      p.isHeldBy (r.forest.subtree pool) := fun p => by
    rw [Bool.and_eq_right_iff_imp]
    exact isHeldBy_mono h
  have hsplit := List.countP_eq_countP_filter_add r.points.values (·.isHeldBy pools)
    (·.isHeldBy (r.forest.subtree pool))
  simp only [List.countP_filter, hboth] at hsplit
  rw [heldIn_emptied, heldIn, heldIn, hsplit, Nat.add_comm]

theorem heldIn_emptied_of_apart {corpses : Bool} {pools : List PoolId}
    (h : ∀ x ∈ pools, x ∉ r.forest.subtree pool) :
    heldIn (r.emptied pool corpses).points pools = heldIn r.points pools := by
  rw [heldIn_emptied, heldIn]
  refine List.countP_congr (fun p _ => ?_)
  rw [Bool.and_eq_true, Bool.not_eq_true', and_iff_left_iff_imp, isHeldBy_iff]
  rintro ⟨held, hheld, hmem⟩
  rw [isHeldBy_of_held hheld, List.contains_eq_mem, decide_eq_false (h _ hmem)]

theorem Balanced.emptied (hr : r.Balanced) (pool : PoolId) (corpses : Bool) :
    (r.emptied pool corpses).Balanced := by
  have hsteps : Steps (fun _ _ _ => True) r (r.despawnPool pool corpses).2 :=
    despawnPool_steps admits_change hr.toPlanned pool corpses
  rw [hr.despawnPool_eq] at hsteps
  exact hsteps.balanced hr

/-- What emptying a pool does to the counts: those of the subtree are zero, the totals above are
less by what the subtree held, and all other pools are the same. Nothing but counts changes. -/
structure Discounted (r : Registry) (pool : PoolId) (s : Registry) : Prop where
  pools : Forest.Alike Pool.uncounted r.forest s.forest
  below : ∀ id ∈ r.forest.subtree pool, ∀ q, s.forest.get? id = some q →
    q.ownCount = 0 ∧ q.totalCount = 0
  above : ∀ id ∈ r.forest.ancestors pool, ∀ p q, r.forest.get? id = some p →
    s.forest.get? id = some q → q.ownCount = p.ownCount ∧
      q.totalCount + heldIn r.points (r.forest.subtree pool) = p.totalCount
  beside : ∀ id, id ∉ r.forest.subtree pool → id ∉ r.forest.ancestors pool →
    s.forest.get? id = r.forest.get? id

theorem Balanced.discounted (hr : r.Balanced) (pool : PoolId) (corpses : Bool) :
    Discounted r pool (r.emptied pool corpses) := by
  have hs := hr.emptied pool corpses
  have hpools := r.alike_emptied pool corpses
  have hlinks : Forest.Alike Pool.links r.forest (r.emptied pool corpses).forest :=
    hpools.through Pool.links
  have htotal : ∀ {id q}, (r.emptied pool corpses).forest.get? id = some q →
      q.totalCount = heldIn (r.emptied pool corpses).points (r.forest.subtree id) := by
    intro id q hq
    rw [hlinks.subtree]
    exact hs.total hq
  -- below, above and beside the pool
  refine ⟨hpools, ?_, ?_, ?_⟩
  · intro id hid q hq
    rw [hs.own hq, htotal hq, heldIn_emptied_of_subset (by simpa using hid),
      heldIn_emptied_of_subset (fun x hx => hr.linked.subtree_trans hid hx)]
    exact ⟨rfl, rfl⟩
  · intro id hid p q hp hq
    have hknown : r.forest.contains pool = true := Forest.contains_of_mem_ancestors hid
    have hpool : pool ∈ r.forest.subtree id :=
      (hr.linked.mem_path_iff hknown).mp (List.mem_cons_of_mem _ hid)
    have hapart := hr.linked.not_mem_subtree_of_above hid
    rw [hs.own hq, htotal hq, hr.own hp, hr.total hp,
      heldIn_emptied_of_apart (fun x hx => List.mem_singleton.mp hx ▸ hapart)]
    exact ⟨rfl, heldIn_emptied_add (fun x hx => hr.linked.subtree_trans hpool hx)⟩
  · intro id hbelow habove
    cases hp : r.forest.get? id with
    | none => exact Forest.not_contains_iff.mp (hpools.contains id ▸ Forest.not_contains_iff.mpr hp)
    | some p =>
        obtain ⟨q, hq, hsame⟩ := hpools.find hp
        rw [hq]
        refine congrArg some (Pool.eq_of_uncounted hsame ?_ ?_)
        · rw [hs.own hq, hr.own hp,
            heldIn_emptied_of_apart (fun x hx => List.mem_singleton.mp hx ▸ hbelow)]
        · rw [htotal hq, hr.total hp, heldIn_emptied_of_apart
            (fun x hx => hr.linked.not_mem_subtree_of_apart hbelow habove hx)]

/-! ## Entities -/

/-- What is destroyed was seen to, each entity once. -/
theorem Sound.doomed_wards (hr : r.Sound) (hdistinct : r.Distinct) (pool : PoolId)
    (corpses : Bool) :
    (r.doomed pool corpses).Nodup ∧ ∀ handle ∈ r.doomed pool corpses, handle ∈ r.wards := by
  have hliving : ∀ handle ∈ r.entitiesBelow pool, ∃ spawn, r.live.get? handle = some spawn :=
    fun _ h => hr.live_of_entities h
  have hdead : ∀ handle ∈ if corpses then (r.remainsBelow pool).map (·.handle) else [],
      ∃ x ∈ r.remains, x.handle = handle := by
    intro handle hmem
    split at hmem
    · obtain ⟨x, hx, rfl⟩ := List.mem_map.mp hmem
      exact ⟨x, (List.mem_filter.mp hx).1, rfl⟩
    · cases hmem
  refine ⟨List.nodup_append.mpr ⟨hr.entities_nodup _, ?_, ?_⟩, ?_⟩
  · split
    · exact (List.nodup_append.mp hdistinct.nodup).2.1.sublist (List.filter_sublist.map _)
    · exact .nil
  · intro handle hmem other hother
    obtain ⟨spawn, hlive⟩ := hliving handle hmem
    obtain ⟨x, hx, rfl⟩ := hdead other hother
    exact (ne_of_wards_nodup hdistinct.nodup hlive hx).symm
  · intro handle hmem
    rcases List.mem_append.mp hmem with hmem | hmem
    · obtain ⟨spawn, hlive⟩ := hliving handle hmem
      exact mem_wards_of_live hlive
    · obtain ⟨x, hx, rfl⟩ := hdead handle hmem
      exact mem_wards_of_remains hx

/-! ## Empty already -/

/-- Where nothing is held and no remains are to go, emptying does nothing. -/
theorem emptied_of_empty {corpses : Bool} (hheld : heldIn r.points (r.forest.subtree pool) = 0)
    (hremains : corpses = true → r.remainsBelow pool = []) : r.emptied pool corpses = r := by
  have hfree : ∀ p ∈ r.points.values, p.isHeldBy (r.forest.subtree pool) = false := fun p hp =>
    Bool.eq_false_iff.mpr (List.countP_eq_zero.mp hheld p hp)
  have hnone : r.heldPoints pool = [] :=
    List.filter_eq_nil_iff.mpr (fun p hp => by rw [hfree p hp]; exact Bool.false_ne_true)
  have hentities : r.entitiesBelow pool = [] := by rw [entitiesBelow, hnone, List.filterMap_nil]
  have hdoomed : r.doomed pool corpses = [] := by
    rw [doomed, hentities]
    cases corpses with
    | true =>
        rw [hremains rfl]
        rfl
    | false => rfl
  have hlive : r.live.filter (fun handle _ => !(r.entitiesBelow pool).contains handle) =
      r.live := by
    refine Table.ext_get? (fun handle => ?_)
    rw [Table.get?_filter_not_contains, hentities, if_neg List.not_mem_nil]
  have hpoints : r.points.map (fun _ => SpawnPoint.emptied (r.forest.subtree pool) corpses) =
      r.points := by
    refine Table.ext_get? (fun x => ?_)
    rw [Table.get?_map]
    cases hp : r.points.get? x with
    | none => rfl
    | some p =>
        have hkept : (if corpses then p.remains.filter
            (fun y => !(r.forest.subtree pool).contains y.pool) else p.remains) = p.remains := by
          cases corpses with
          | false => rfl
          | true =>
              refine List.filter_eq_self.mpr (fun y hy => ?_)
              have hother := List.filter_eq_nil_iff.mp (hremains rfl) y
                (mem_remains.mpr ⟨x, p, hp, hy⟩)
              rw [Bool.eq_false_iff.mpr hother]
              rfl
        rw [Option.map_some, SpawnPoint.emptied, hfree p (Table.mem_values.mpr ⟨x, hp⟩), hkept]
        rfl
  rw [emptied, hnone, hdoomed, hlive, hpoints]
  rfl

theorem remains_emptied_true (r : Registry) (pool : PoolId) : (r.emptied pool true).remains =
    r.remains.filter (fun x => !(r.forest.subtree pool).contains x.pool) := by
  rw [← clearRemains_emptied, (clearRemains_eq _ _).2.1, remains_emptied_false]

theorem emptied_emptied (r : Registry) (pool : PoolId) (corpses : Bool) :
    (r.emptied pool corpses).emptied pool corpses = r.emptied pool corpses := by
  refine emptied_of_empty ?_ ?_
  · rw [subtree_emptied]
    exact heldIn_emptied_of_subset (List.Subset.refl _)
  · rintro rfl
    rw [remainsBelow, remains_emptied_true, subtree_emptied, List.filter_filter,
      List.filter_eq_nil_iff]
    simp

/-! ## Exactly the subtree -/

/-- A pool has been emptied, with or without its remains: its points are free and have no entity,
what was on them is neither alive nor in the host, its remains are gone if they were to go, nothing
in its subtree is counted, and whatever else there is is as it was. -/
structure Emptied (r : Registry) (pool : PoolId) (corpses : Bool) (s : Registry) : Prop
    extends Discounted r pool s where
  rest : s = { r with forest := s.forest, points := s.points, live := s.live, host := s.host }
  host : s.host = { r.host with entities := s.host.entities, destroyed := s.host.destroyed }
  points : s.points = r.points.map (fun _ => SpawnPoint.emptied (r.forest.subtree pool) corpses)
  live : ∀ handle, s.live.get? handle =
    if handle ∈ r.entitiesBelow pool then none else r.live.get? handle
  entities : ∀ handle, s.host.entities.get? handle =
    if handle ∈ r.doomed pool corpses then none else r.host.entities.get? handle
  /-- What is destroyed was there, and is counted as destroyed once. -/
  there : ∀ handle ∈ r.doomed pool corpses, r.host.entities.contains handle = true
  destroyed : s.host.destroyed = r.host.destroyed + (r.doomed pool corpses).length

theorem Balanced.emptied_exactly (hr : r.Balanced) (hdistinct : r.Distinct) (hpresent : r.Present)
    (pool : PoolId) (corpses : Bool) : Emptied r pool corpses (r.emptied pool corpses) := by
  obtain ⟨hnodup, hwards⟩ := hr.doomed_wards hdistinct pool corpses
  have hthere := fun handle hmem => hpresent handle (hwards handle hmem)
  exact {
    toDiscounted := hr.discounted pool corpses
    rest := rfl
    host := r.host.destroyAll_eq _
    points := rfl
    live := Table.get?_filter_not_contains _ _
    entities := r.host.get?_destroyAll _
    there := hthere
    destroyed := r.host.destroyed_destroyAll hnodup hthere }

/-- Emptying a pool releases exactly its subtree. It answers with the number of points that the
subtree held, doing it again does nothing, and so spawning a pool anew is spawning it back where
nothing is held. -/
theorem Reachable.despawnPool_empties
    (hsmall : ((rows.points.map (·.point)).dedup).length < 2 ^ 32)
    (hr : Reachable rows allowed r) (pool : PoolId) (corpses : Bool) :
    (r.despawnPool pool corpses).1 = heldIn r.points (r.forest.subtree pool) ∧
    Emptied r pool corpses (r.despawnPool pool corpses).2 ∧
    (r.despawnPool pool corpses).2.despawnPool pool corpses =
      (0, (r.despawnPool pool corpses).2) ∧
    (r.Unreserved pool → exec (reseedPool pool) r = exec (respawnPool pool) r) := by
  have hbalanced := hr.balanced hsmall
  rw [hbalanced.despawnPool_eq]
  refine ⟨rfl, hbalanced.emptied_exactly hr.distinct hr.present pool corpses, ?_, ?_⟩
  · show (r.emptied pool corpses).despawnPool pool corpses = _
    rw [(hbalanced.emptied pool corpses).despawnPool_eq, emptied_emptied, subtree_emptied,
      heldIn_emptied_of_subset (List.Subset.refl _)]
  · intro hunreserved
    have hsame : (r.despawnPool pool false).2 = r := by
      rw [hbalanced.despawnPool_eq]
      exact emptied_of_empty (heldIn_eq_zero hunreserved) nofun
    rw [reseedPool, exec_modify_bind, hsame]

/-- The camp with an entity of each of its leaves. -/
def busyCamp : Registry := (camp.perform (.spawnPool ⟨2⟩ 1)).perform (.spawnPool ⟨3⟩ 1)

/-- Emptying one leaf leaves the other one its entity, and the root counts one less. -/
theorem despawnPool_empties_camp :
    (busyCamp.despawnPool ⟨3⟩ true).1 = 1 ∧
      (busyCamp.forest.get? ⟨1⟩).map (·.totalCount) = some 2 ∧
      ((busyCamp.despawnPool ⟨3⟩ true).2.forest.get? ⟨1⟩).map (·.totalCount) = some 1 ∧
      (busyCamp.despawnPool ⟨3⟩ true).2.host.destroyed = 1 := by
  have hr : Reachable campRows (fun _ => True) busyCamp :=
    ((reachable_camp _).step _ trivial).step _ trivial
  obtain ⟨hcount, hemptied, -, -⟩ := hr.despawnPool_empties (by decide) ⟨3⟩ true
  have hheld : heldIn busyCamp.points (busyCamp.forest.subtree ⟨3⟩) = 1 := by decide +kernel
  have hdoomed : busyCamp.host.destroyed + (busyCamp.doomed ⟨3⟩ true).length = 1 := by
    decide +kernel
  refine ⟨hcount.trans hheld, by decide +kernel, by decide +kernel, ?_⟩
  exact hemptied.destroyed.trans hdoomed

end Registry

end SpawnForest
