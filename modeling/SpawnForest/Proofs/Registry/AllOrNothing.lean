import SpawnForest.Proofs.Forest.Tally
import SpawnForest.Proofs.Registry.Filling

/-!
# One spawn is all or nothing

A spawn that succeeds has done one thing only, and done all of it: one free
point is reserved, the leaf and every group above it count one entity more, and
nothing else about pools, points, patches and timers is different (`SpawnedAt`).

A spawn that comes to nothing has left no trace but for its draws. Most ways to
fail stop before anything is changed. The last one does not: the point is
reserved and counted when the host is asked, and if it refuses, the reservation
is taken back. That this restores every count is not a matter of adding and
subtracting alone, since a step that would leave 32 bits is dropped, and dropped
in one direction only. As long as points and counts balance no step up is
dropped, so the step down undoes it exactly (`Balanced.release_reserve`).
-/

namespace SpawnForest.Registry

variable {r s : Registry} {pool leaf : PoolId} {x : PointId} {held : Reservation}

/-! ## What a spawn does -/

/-- One entity was spawned below a pool, in a leaf that is switched on from there, at a point that
was free and is assigned to the leaf or to a group above it. The point is reserved for a candidate
of the leaf and may have its entity already, and the leaf and everything above it count one more.
Everything else is as it was, but for the random draws and for what the host and the live table
know of the entity. -/
structure SpawnedAt (r : Registry) (pool leaf : PoolId) (x : PointId) (held : Reservation)
    (s : Registry) : Prop where
  openLeaf : r.forest.OpenLeaf pool leaf
  assigned : ∃ g ∈ leaf :: r.forest.ancestors leaf, x ∈ r.forest.assigned g
  candidate : ∃ p, r.forest.get? leaf = some p ∧ ∃ c ∈ p.candidates, held = ⟨leaf, c.entry, p.kind⟩
  point : ∃ q entity, r.points.get? x = some q ∧ q.reservation = none ∧
    s.points.get? x = some { q with reservation := some held, entity := entity }
  points : ∀ y, y ≠ x → s.points.get? y = r.points.get? y
  counts : Forest.CountsOneMore r.forest s.forest leaf
  rest : s = { r with
    random := s.random
    host := s.host
    forest := s.forest
    points := s.points
    live := s.live }

theorem SpawnedAt.timers (h : SpawnedAt r pool leaf x held s) : s.timers = r.timers :=
  (congrArg Registry.timers h.rest :)

/-- What a reserved point looks like once its entity has been asked for. -/
theorem materialize?_point {q : SpawnPoint} (hq : r.points.get? x = some q)
    (h : r.materialize? x = some s) :
    ∃ entity, s.points.get? x = some { q with entity := entity } ∧
      (∀ y, y ≠ x → s.points.get? y = r.points.get? y) ∧
      s = { r with host := s.host, points := s.points, live := s.live } := by
  rcases materialize?_cases h with rfl | ⟨_, request, handle, host, -, -, -, -, rfl⟩
  · exact ⟨q.entity, hq, fun _ _ => rfl, rfl⟩
  · exact ⟨some handle, Table.get?_modify_self hq, fun y hy => Table.get?_modify_of_ne hy, rfl⟩

/-- A direct spawn that succeeds has reserved its point, which was free. -/
theorem exec_spawnAt_true {kind : SpawnKind} {entry : UInt32}
    (h : exec (spawnAt kind leaf entry x) r = (.ok true, s)) :
    ∃ q entity, r.points.get? x = some q ∧ q.reservation = none ∧
      s.points.get? x = some { q with reservation := some ⟨leaf, entry, kind⟩, entity := entity } ∧
      (∀ y, y ≠ x → s.points.get? y = r.points.get? y) ∧ s.forest = r.forest.gain leaf ∧
      s = { r with host := s.host, forest := s.forest, points := s.points, live := s.live } := by
  rcases exec_spawnAt r kind leaf entry x with
    ⟨-, h'⟩ | ⟨_, _, -, -, h'⟩ | ⟨q, -, hq, hfree, h' | ⟨made, hmade, h'⟩ | ⟨-, h'⟩⟩
  · cases (answer_inj (h'.symm.trans h)).1
  · cases (Prod.mk.inj (h'.symm.trans h)).1
  · obtain ⟨-, rfl⟩ := answer_inj (h'.symm.trans h)
    exact ⟨q, q.entity, hq, hfree, Table.get?_modify_self hq,
      fun y hy => Table.get?_modify_of_ne hy, rfl, rfl⟩
  · obtain ⟨-, rfl⟩ := answer_inj (h'.symm.trans h)
    have hreserved : (r.reserve x ⟨leaf, entry, kind⟩).points.get? x =
        some (q.reserve ⟨leaf, entry, kind⟩) := Table.get?_modify_self hq
    obtain ⟨entity, hpoint, hothers, hrest⟩ := materialize?_point hreserved hmade
    have hforest : made.forest = r.forest.gain leaf := (congrArg Registry.forest hrest :)
    refine ⟨q, entity, hq, hfree, hpoint,
      fun y hy => (hothers y hy).trans (Table.get?_modify_of_ne hy), hforest, ?_⟩
    rw [hforest]
    exact hrest
  · cases (answer_inj (h'.symm.trans h)).1

/-- A spawn leaves a balanced registry balanced. -/
theorem Balanced.balanced_exec_spawnSingle (hr : r.Balanced) {mode : Mode}
    {answer : Except Fault Bool} (h : exec (spawnSingle pool mode) r = (answer, s)) :
    s.Balanced := by
  have hsteps : Steps (fun _ _ _ => True) r (exec (spawnSingle pool mode) r).2 :=
    spawnSingle_steps admits_change.toSpawns hr.toPlanned pool mode (fun _ _ _ _ _ _ => trivial)
  rw [h] at hsteps
  exact hsteps.balanced hr

/-- A spawn that succeeds has gone down to a leaf, and counts one entity there. -/
theorem Balanced.exec_spawnSingle_true (hr : r.Balanced) {mode : Mode}
    (h : exec (spawnSingle pool mode) r = (.ok true, s)) :
    ∃ leaf x held, r.forest.Descent mode pool leaf ∧ s.forest = r.forest.gain leaf ∧
      SpawnedAt r pool leaf x held s := by
  obtain ⟨g, hrun⟩ := exec_spawnSingle hr.linked hr.named pool mode
  rcases hrun with ⟨-, hrun⟩ | ⟨-, hrun⟩ | ⟨leaf, p, c, x, hdescent, hp, hc, hx, hrun⟩
  · cases (answer_inj (hrun.symm.trans h)).1
  · cases (Prod.mk.inj (hrun.symm.trans h)).1
  · obtain ⟨q, entity, hq, hfree, hpoint, hothers, hforest, hrest⟩ :=
      exec_spawnAt_true (hrun.symm.trans h)
    have hknown := Forest.contains_iff.mpr ⟨p, hp⟩
    refine ⟨leaf, x, ⟨leaf, c.entry, p.kind⟩, hdescent, hforest, ?_⟩
    refine ⟨hdescent.openLeaf hr.linked, Forest.mem_usablePoints.mp (mem_freePoints.mp hx).1,
      ⟨p, hp, c, hc, rfl⟩, ⟨q, entity, hq, hfree, hpoint⟩, hothers, ?_, ?_⟩
    · rw [hforest]
      exact hr.linked.countsOneMore_gain hknown (hr.counts_up hq hfree leaf)
    · have hdrawn : s.random = g := (congrArg Registry.random hrest :)
      rw [hdrawn]
      exact hrest

/-! ## What is taken back -/

/-- A reservation that is taken back leaves the registry as it was. -/
theorem Balanced.release_reserve (hr : r.Balanced) {q : SpawnPoint} (hq : r.points.get? x = some q)
    (hfree : q.reservation = none) (held : Reservation) :
    (r.reserve x held).release x held.pool = r := by
  have hforest : (r.forest.gain held.pool).lose held.pool = r.forest :=
    hr.linked.lose_gain (hr.counts_up hq hfree held.pool)
  have hpoints : (r.points.modify x (·.reserve held)).modify x (·.release) = r.points := by
    refine Table.ext_get? (fun y => ?_)
    by_cases hy : y = x
    · subst hy
      rw [Table.get?_modify_self (Table.get?_modify_self hq), hq, SpawnPoint.reserve,
        SpawnPoint.release, ← hfree]
    · rw [Table.get?_modify_of_ne hy, Table.get?_modify_of_ne hy]
  show { r with
    forest := (r.forest.gain held.pool).lose held.pool
    points := (r.points.modify x (·.reserve held)).modify x (·.release) } = r
  rw [hforest, hpoints]

theorem Balanced.exec_spawnAt_false (hr : r.Balanced) {kind : SpawnKind} {entry : UInt32}
    (h : exec (spawnAt kind leaf entry x) r = (.ok false, s)) : s = r := by
  rcases exec_spawnAt r kind leaf entry x with
    ⟨-, h'⟩ | ⟨_, _, -, -, h'⟩ | ⟨q, -, hq, hfree, h' | ⟨made, -, h'⟩ | ⟨-, h'⟩⟩
  · exact (answer_inj (h.symm.trans h')).2
  · cases (Prod.mk.inj (h.symm.trans h')).1
  · cases (answer_inj (h.symm.trans h')).1
  · cases (answer_inj (h.symm.trans h')).1
  · obtain ⟨-, rfl⟩ := answer_inj (h.symm.trans h')
    exact hr.release_reserve hq hfree ⟨leaf, entry, kind⟩

theorem Balanced.exec_spawnSingle_false (hr : r.Balanced) {mode : Mode}
    (h : exec (spawnSingle pool mode) r = (.ok false, s)) : ∃ g, s = { r with random := g } := by
  obtain ⟨g, hrun⟩ := exec_spawnSingle hr.linked hr.named pool mode
  refine ⟨g, ?_⟩
  rcases hrun with ⟨-, hrun⟩ | ⟨-, hrun⟩ | ⟨leaf, p, c, x, -, -, -, -, hrun⟩
  · exact (answer_inj (h.symm.trans hrun)).2
  · cases (Prod.mk.inj (h.symm.trans hrun)).1
  · exact (hr.drawn g).exec_spawnAt_false (hrun.symm.trans h)

/-! ## Reachable registries -/

/-- A spawn is all or nothing. If it succeeds, one free point is reserved and one entity is counted,
and if it comes to nothing, the registry is the one before the call but for the random source, which
a direct spawn does not use either. -/
theorem Reachable.spawn_all_or_nothing {rows : PoolRows}
    (hsmall : ((rows.points.map (·.point)).dedup).length < 2 ^ 32)
    (hr : Reachable rows (fun _ => True) r) :
    (∀ pool mode s, exec (spawnSingle pool mode) r = (.ok true, s) →
      ∃ leaf x held, SpawnedAt r pool leaf x held s) ∧
    (∀ pool mode s, exec (spawnSingle pool mode) r = (.ok false, s) →
      ∃ g, s = { r with random := g }) ∧
    ∀ kind pool entry x s, exec (spawnAt kind pool entry x) r = (.ok false, s) → s = r := by
  have hbalanced := hr.balanced hsmall
  refine ⟨fun pool mode s h => ?_, fun pool mode s h => hbalanced.exec_spawnSingle_false h,
    fun kind pool entry x s h => hbalanced.exec_spawnAt_false h⟩
  obtain ⟨leaf, x, held, -, -, hspawned⟩ := hbalanced.exec_spawnSingle_true h
  exact ⟨leaf, x, held, hspawned⟩

/-- In the small map a spawn succeeds, and one whose entry the host refuses is undone after the
point was reserved for it. -/
theorem spawn_all_or_nothing_camp :
    (∃ leaf x held, SpawnedAt camp ⟨1⟩ leaf x held (exec (spawnSingle ⟨1⟩ .maximum) camp).2) ∧
      (((camp.perform (.host (.reject 8))).reserve ⟨4⟩ ⟨⟨3⟩, 8, .creature⟩).materialize?
        ⟨4⟩).isNone = true ∧
      (exec (spawnAt .creature ⟨3⟩ 8 ⟨4⟩) (camp.perform (.host (.reject 8)))).2 =
        camp.perform (.host (.reject 8)) := by
  have hspawned : (exec (spawnSingle ⟨1⟩ .maximum) camp).1 = .ok true := by decide +kernel
  have hrefusing : Reachable campRows (fun _ => True) (camp.perform (.host (.reject 8))) :=
    (reachable_camp _).step _ trivial
  have hrefused : (exec (spawnAt .creature ⟨3⟩ 8 ⟨4⟩) (camp.perform (.host (.reject 8)))).1 =
      .ok false := by decide +kernel
  refine ⟨?_, by decide +kernel, ?_⟩
  · exact (Reachable.spawn_all_or_nothing (by decide) (reachable_camp _)).1 ⟨1⟩ .maximum _
      (exec_eq_of_answer hspawned)
  · exact (Reachable.spawn_all_or_nothing (by decide) hrefusing).2.2 .creature ⟨3⟩ 8 ⟨4⟩ _
      (exec_eq_of_answer hrefused)

end SpawnForest.Registry
