import SpawnForest.Proofs.Registry.TimerWrites
import SpawnForest.Proofs.Registry.Vacating

/-!
# Pools that are switched off drain

Switching a pool off takes everything out of its subtree: no point stays
reserved for it, none of its entities stays alive and none of its timers stays
pending (`setActive_drains`).

That its counts are zero then takes an invariant of its own. What a pool counts
is what is reserved for it only as long as no step of a count is dropped, which
a map with too many points may see. But a count never exceeds the reservations
that it stands for (`Covered`), however many steps are dropped, so that without
reservations there is nothing left to count.
-/

namespace SpawnForest

namespace Registry

variable {may : Registry → PoolId → PointId → Prop} {r s : Registry} {pool : PoolId}

/-! ## Counts and reservations -/

/-- A count that exceeds neither what it stands for nor what it is stored in. -/
def Within (count held : Nat) : Prop := count ≤ held ∧ count < 2 ^ 32

/-- A step of the count keeps it within what it stands for, also where the step is dropped. -/
theorem Within.bump {count before after : Nat} {delta : Int} {moved : Prop} [Decidable moved]
    (h : Within count before) (hdelta : delta = 1 ∨ delta = -1)
    (hafter : (after : Int) = before + if moved then delta else 0) :
    Within (if moved then Forest.bump count delta else count) after := by
  obtain ⟨hle, hlt⟩ := h
  by_cases hmoved : moved
  · rw [if_pos hmoved] at hafter ⊢
    refine ⟨?_, Forest.bump_lt hlt delta⟩
    rcases hdelta with rfl | rfl
    · have hup := Forest.bump_le count 1
      omega
    · rw [Forest.bump_neg_one (by omega)]
      omega
  · rw [if_neg hmoved] at hafter ⊢
    exact ⟨by omega, hlt⟩

/-- No pool counts more than there are reservations for it. -/
structure Covered (r : Registry) : Prop where
  own : ∀ {id p}, r.forest.get? id = some p → Within p.ownCount (heldIn r.points [id])
  total : ∀ {id p}, r.forest.get? id = some p →
    Within p.totalCount (heldIn r.points (r.forest.subtree id))

theorem Fresh.covered (hr : r.Fresh) : r.Covered := by
  have hzero : ∀ held, Within 0 held := fun held => ⟨Nat.zero_le held, Nat.two_pow_pos 32⟩
  refine ⟨fun hp => ?_, fun hp => ?_⟩
  · rw [(hr.counts hp).1]
    exact hzero _
  · rw [(hr.counts hp).2]
    exact hzero _

theorem Covered.of_alike (hr : r.Covered) (hplan : SamePlan r s)
    (hcounts : Forest.Alike (fun p => (p.ownCount, p.totalCount)) r.forest s.forest)
    (hpoints : r.points.Alike (·.reservation) s.points) : s.Covered := by
  refine ⟨fun hq => ?_, fun hq => ?_⟩
  · obtain ⟨p, hp, hsame⟩ := Forest.Alike.find hcounts.symm hq
    rw [← (Prod.mk.inj hsame).1, ← heldIn_of_alike hpoints]
    exact hr.own hp
  · obtain ⟨p, hp, hsame⟩ := Forest.Alike.find hcounts.symm hq
    rw [← (Prod.mk.inj hsame).2, ← heldIn_of_alike hpoints, ← hplan.subtree]
    exact hr.total hp

theorem Covered.of_adjust (hr : r.Covered) (hlinked : r.forest.WellLinked) (hplan : SamePlan r s)
    {id : PoolId} {delta : Int} (hdelta : delta = 1 ∨ delta = -1)
    (hknown : r.forest.contains id = true) (hforest : s.forest = r.forest.adjust id delta false)
    (hheld : ∀ pools, (heldIn s.points pools : Int)
      = heldIn r.points pools + if id ∈ pools then delta else 0) : s.Covered := by
  refine ⟨?_, ?_⟩
  · intro key q hq
    rw [hforest] at hq
    obtain ⟨p, hp, rfl⟩ := hlinked.find_adjust hknown hq
    have hafter := hheld [key]
    simp only [List.mem_singleton, eq_comm (a := id)] at hafter
    exact (hr.own hp).bump hdelta hafter
  · intro key q hq
    rw [hforest] at hq
    obtain ⟨p, hp, rfl⟩ := hlinked.find_adjust hknown hq
    rw [← hplan.subtree]
    exact (hr.total hp).bump hdelta (hheld _)

theorem Change.covered (h : Change may r s) (hsound : r.Sound) (hr : r.Covered) : s.Covered := by
  have hplan := h.samePlan
  cases h.tally hsound with
  | kept hcounts hpoints => exact hr.of_alike hplan hcounts hpoints
  | gained hp hfree hmay hknown hforest hpoints =>
      refine hr.of_adjust hsound.linked hplan (.inl rfl) hknown hforest ?_
      intro pools
      rw [hpoints]
      exact heldIn_gain hp hfree _ pools
  | lost change hp hheld hforest halike hchange hpoints =>
      obtain ⟨c, -, hc, -⟩ := hsound.candidate_of_held hp hheld
      refine hr.of_adjust hsound.linked hplan (.inr rfl) (Forest.contains_iff.mpr ⟨c, hc⟩)
        hforest ?_
      intro pools
      rw [hpoints]
      exact heldIn_lose halike hp hheld hchange pools

theorem Steps.covered (h : Steps may r s) (hsound : r.Sound) (hr : r.Covered) : s.Covered := by
  have hboth := h.keep (P := fun s => s.Sound ∧ s.Covered) (fun change ⟨hsound, hcovered⟩ =>
    ⟨change.sound hsound, change.covered hsound hcovered⟩) ⟨hsound, hr⟩
  exact hboth.2

theorem Reachable.covered {rows : PoolRows} {allowed : Operation → Prop}
    (hr : Reachable rows allowed r) : r.Covered :=
  hr.keep (fun _ hfresh => hfresh.covered)
    (fun _ hr hcovered hsteps => hsteps.covered hr.sound hcovered)

/-! ## Deserted subtrees -/

/-- No point is reserved for a pool of a subtree. -/
def Unreserved (r : Registry) (pool : PoolId) : Prop :=
  ∀ x p held, r.points.get? x = some p → p.reservation = some held →
    held.pool ∉ r.forest.subtree pool

/-- Nothing of a subtree is on the map: no reservation, no entity, no count. -/
structure Deserted (r : Registry) (pool : PoolId) : Prop where
  unreserved : r.Unreserved pool
  lifeless : ∀ handle spawn, r.live.get? handle = some spawn → spawn.pool ∉ r.forest.subtree pool
  uncounted : ∀ id ∈ r.forest.subtree pool, ∀ p, r.forest.get? id = some p →
    p.ownCount = 0 ∧ p.totalCount = 0

/-- Nothing of a subtree is on the map, and nothing is going to come back by a timer. -/
structure Drained (r : Registry) (pool : PoolId) : Prop extends Deserted r pool where
  timeless : ∀ kind key t, r.timers.get? kind key = some t → t.pool ∉ r.forest.subtree pool

theorem heldIn_eq_zero {points : Table PointId SpawnPoint} {pools : List PoolId}
    (h : ∀ x p held, points.get? x = some p → p.reservation = some held → held.pool ∉ pools) :
    heldIn points pools = 0 := by
  refine List.countP_eq_zero.mpr ?_
  intro p hp
  obtain ⟨x, hx⟩ := Table.mem_values.mp hp
  cases hheld : p.reservation with
  | none => simp [isHeldBy_of_free hheld]
  | some held => simp [isHeldBy_of_held hheld, h x p held hx hheld]

/-- Entities and counts go with the reservations. -/
theorem Unreserved.deserted (h : r.Unreserved pool) (hr : r.Sound) (hcovered : r.Covered) :
    r.Deserted pool := by
  refine ⟨h, ?_, ?_⟩
  · intro handle spawn hlive
    obtain ⟨p, hp, -, hheld⟩ := hr.tracking.tracked hlive
    exact h _ p _ hp hheld
  · intro id hid p hp
    have hown : heldIn r.points [id] = 0 := by
      refine heldIn_eq_zero (fun x q held hq hheld hmem => h x q held hq hheld ?_)
      rwa [List.mem_singleton.mp hmem]
    have htotal : heldIn r.points (r.forest.subtree id) = 0 :=
      heldIn_eq_zero (fun x q held hq hheld hmem =>
        h x q held hq hheld (hr.linked.subtree_trans hid hmem))
    have hle := (hcovered.own hp).1
    have hle' := (hcovered.total hp).1
    omega

/-! ## Switching off -/

/-- Emptying a pool frees every point of its subtree. -/
theorem unreserved_despawnPool (hr : r.Planned) (pool : PoolId) :
    (r.despawnPool pool false).2.Unreserved pool := by
  rw [hr.despawnPool_eq]
  intro x q held hq hheld hmem
  rw [subtree_emptied] at hmem
  rw [emptied, Table.get?_map] at hq
  obtain ⟨p, -, rfl⟩ := Option.map_eq_some_iff.mp hq
  have hheldBy := isHeldBy_iff.mpr ⟨held, hheld, hmem⟩
  rw [isHeldBy_emptied, Bool.and_not_self] at hheldBy
  cases hheldBy

/-- A pool is switched off, and its timers are dropped. -/
def closed (r : Registry) (pool : PoolId) : Registry :=
  { r with forest := r.forest.modify pool (fun p => { p with active := false }) }.dropTimers pool

theorem samePlan_closed (r : Registry) (pool : PoolId) : SamePlan r (r.closed pool) :=
  ⟨Forest.alike_modify (fun _ _ => rfl), .refl _ _⟩

/-- Switching a known pool off: its timers are dropped, and then it is emptied. -/
theorem exec_setActive_false (hknown : r.forest.contains pool = true) :
    exec (setActive pool false) r = (.ok (some ((r.closed pool).despawnPool pool false).1),
      ((r.closed pool).despawnPool pool false).2) := by
  unfold setActive
  rw [exec_get_bind]
  simp only [hknown, Bool.not_true, Bool.false_eq_true, if_false]
  rfl

theorem unreserved_setActive (hr : r.Planned) (hknown : r.forest.contains pool = true) :
    (r.perform (.setActive pool false)).Unreserved pool := by
  rw [perform, exec_setActive_false hknown]
  exact unreserved_despawnPool ((r.samePlan_closed pool).planned hr) pool

/-- A pool that is switched off drains, with everything below it. -/
theorem Reachable.setActive_drains {rows : PoolRows} {allowed : Operation → Prop}
    (hr : Reachable rows allowed r) (hknown : r.forest.contains pool = true) :
    (r.perform (.setActive pool false)).Drained pool := by
  have hsteps := perform_steps hr.sound.toPlanned (.setActive pool false)
  have hunreserved := unreserved_setActive hr.sound.toPlanned hknown
  refine ⟨hunreserved.deserted (hsteps.sound hr.sound) (hsteps.covered hr.sound hr.covered), ?_⟩
  intro kind key t ht hmem
  rw [← hsteps.samePlan.subtree] at hmem
  rw [perform, setActive_timers hr.sound.toPlanned] at ht
  have hgone := Schedule.drops_foldl_remove hr.coherent (r.forest.subtree pool) kind key
  simp only [Bool.false_eq_true, if_false] at ht
  rw [dropTimers] at ht
  dsimp only at ht
  rw [hgone] at ht
  have hkept := (Option.filter_eq_some_iff.mp ht).2
  simp [hmem] at hkept

end Registry

end SpawnForest
