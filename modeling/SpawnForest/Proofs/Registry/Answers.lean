import SpawnForest.Proofs.Registry.Emptying
import SpawnForest.Proofs.Registry.Unclaimed

/-!
# What operators' changes answer

An operator reads one number for each change of a pool. Emptying it, and
switching it off, is answered with the reservations of its subtree, all of which
are released and no others (`ReleasesAll`). Populating it is answered with the
reservations made, by which its total has grown (`Populated`). Spawning it anew
does both, and answers for the second part only.
-/

namespace SpawnForest

theorem Forest.Alike.totalCount {f g : Forest} (h : Forest.Alike (·.totalCount) f g)
    (id : PoolId) : g.totalCount id = f.totalCount id := by
  rw [Forest.totalCount, Forest.totalCount, h.get? id]

namespace Registry

variable {r s : Registry} {pool : PoolId} {n : Nat}

/-! ## Releasing -/

/-- So many points are reserved by some pools. These reservations are released, and all others
stay. -/
structure ReleasesAll (pools : List PoolId) (n : Nat) (points points' : Table PointId SpawnPoint) :
    Prop where
  count : heldIn points pools = n
  released : ∀ x, (points'.get? x).map (·.reservation) =
    (points.get? x).map (fun p => if p.isHeldBy pools then none else p.reservation)

theorem releasesAll_emptied (r : Registry) (pool : PoolId) (corpses : Bool) :
    ReleasesAll (r.forest.subtree pool) (heldIn r.points (r.forest.subtree pool)) r.points
      (r.emptied pool corpses).points where
  count := rfl
  released x := by
    rw [emptied, Table.get?_map, Option.map_map]
    rfl

theorem Planned.releasesAll_despawnPool (hr : r.Planned) (pool : PoolId) (corpses : Bool) :
    ReleasesAll (r.forest.subtree pool) (r.despawnPool pool corpses).1 r.points
      (r.despawnPool pool corpses).2.points := by
  rw [hr.despawnPool_eq]
  exact r.releasesAll_emptied pool corpses

/-- Switching a pool off is answered like emptying it. -/
theorem Planned.releasesAll_setActive (hr : r.Planned) (hknown : r.forest.contains pool = true) :
    ∃ n, (exec (setActive pool false) r).1 = .ok (some n) ∧ ReleasesAll (r.forest.subtree pool) n
      r.points (exec (setActive pool false) r).2.points := by
  have hplan := r.samePlan_closed pool
  have hreleases := (hplan.planned hr).releasesAll_despawnPool pool false
  rw [← hplan.subtree] at hreleases
  rw [exec_setActive_false hknown]
  exact ⟨_, rfl, hreleases⟩

/-! ## Populating -/

/-- So many points are reserved anew, and the total of a pool is higher by that number. -/
structure Gains (pool : PoolId) (n : Nat) (r s : Registry) : Prop where
  reserves : ReservesNew n r.points s.points
  total : s.forest.totalCount pool = r.forest.totalCount pool + n

theorem Balanced.gains_spawnPool (hr : r.Balanced)
    (h : exec (spawnPool pool 0) r = (.ok n, s)) : Gains pool n r s :=
  have hspends := (hr.spends_exec_spawnPool h).1
  ⟨hspends.reserves, hspends.total⟩

/-- Switching a pool on is answered like populating it. -/
theorem Balanced.gains_setActive (hr : r.Balanced) (hknown : r.forest.contains pool = true)
    {answer : Option Nat} (h : exec (setActive pool true) r = (.ok answer, s)) :
    ∃ n, answer = some n ∧ Gains pool n r s := by
  unfold setActive at h
  rw [exec_get_bind, hknown, Bool.not_true, if_neg Bool.false_ne_true, exec_modify_bind] at h
  obtain ⟨n, t, hspawned, h⟩ := exec_bind_eq_ok h
  obtain ⟨rfl, rfl⟩ := answer_inj h
  have hchange : Change AnyPopulated r { r with
      forest := r.forest.modify pool (fun p => { p with active := true }) } :=
    .activate r pool true
  have hcounts : Forest.Alike (·.totalCount) r.forest
      (r.forest.modify pool (fun p => { p with active := true })) :=
    Forest.alike_modify (fun _ _ => rfl)
  have hgains := (hchange.balanced hr).gains_spawnPool hspawned
  exact ⟨n, rfl, hgains.reserves, by rw [hgains.total, hcounts.totalCount]⟩

/-- Only a pool that is not there is answered with nothing when it is switched, and nothing is
changed then. -/
theorem setActive_cases {active : Bool} {answer : Option Nat}
    (h : exec (setActive pool active) r = (.ok answer, s)) :
    (∃ n, answer = some n ∧ r.forest.contains pool = true) ∨ answer = none ∧ s = r := by
  unfold setActive at h
  rw [exec_get_bind] at h
  cases hknown : r.forest.contains pool with
  | false =>
      rw [hknown, Bool.not_false, if_pos rfl] at h
      obtain ⟨rfl, rfl⟩ := answer_inj h
      exact .inr ⟨rfl, rfl⟩
  | true =>
      rw [hknown, Bool.not_true, if_neg Bool.false_ne_true, exec_modify_bind] at h
      refine .inl ?_
      cases active with
      | true =>
          obtain ⟨n, t, -, h⟩ := exec_bind_eq_ok h
          exact ⟨n, (answer_inj h).1.symm, rfl⟩
      | false => exact ⟨_, (answer_inj h).1.symm, rfl⟩

theorem Balanced.gains_respawnPool (hr : r.Balanced)
    (h : exec (respawnPool pool) r = (.ok n, s)) : Gains pool n r s := by
  unfold respawnPool at h
  rw [exec_modify_bind] at h
  have hchange : Change AnyPopulated r (r.dropTimers pool) := .schedule r _
  have hgains := (hchange.balanced hr).gains_spawnPool h
  exact ⟨hgains.reserves, hgains.total⟩

/-- A pool that is spawned anew is populated from nothing. -/
theorem Balanced.gains_reseedPool (hr : r.Balanced)
    (h : exec (reseedPool pool) r = (.ok n, s)) :
    Gains pool n (r.despawnPool pool false).2 s ∧ s.forest.totalCount pool = n := by
  unfold reseedPool at h
  rw [exec_modify_bind] at h
  rw [hr.despawnPool_eq] at h ⊢
  have hgains := (hr.emptied pool false).gains_respawnPool h
  have hnothing : (r.emptied pool false).forest.totalCount pool = 0 := by
    cases hq : (r.emptied pool false).forest.get? pool with
    | none => rw [Forest.totalCount, hq, Option.map_none, Option.getD_none]
    | some q =>
        rw [Forest.totalCount_of_get hq, (hr.emptied pool false).total hq, subtree_emptied,
          heldIn_emptied_of_subset (List.Subset.refl _)]
  refine ⟨hgains, ?_⟩
  rw [hgains.total, hnothing, Nat.zero_add]

/-! ## Timers -/

/-- No timer of the subtree of a pool is pending. -/
def Timeless (r : Registry) (pool : PoolId) : Prop :=
  ∀ t ∈ r.timers.all, t.pool ∉ r.forest.subtree pool

theorem timeless_of_dropTimers (hr : r.timers.Coherent)
    (htimers : s.timers = (r.dropTimers pool).timers) (hplan : SamePlan r s) :
    s.Timeless pool := by
  intro t ht
  rw [htimers, (drops_dropTimers hr pool).all_eq, List.mem_filter] at ht
  rw [← hplan.subtree]
  simpa using ht.2

theorem timeless_respawnPool (hr : r.Planned) (hcoherent : r.timers.Coherent) (pool : PoolId) :
    (exec (respawnPool pool) r).2.Timeless pool :=
  have hsteps : Steps AnyPopulated r (exec (respawnPool pool) r).2 :=
    respawnPool_steps admits_change hr pool
  timeless_of_dropTimers hcoherent (respawnPool_timers hr pool) hsteps.samePlan

theorem timeless_reseedPool (hr : r.Planned) (hcoherent : r.timers.Coherent) (pool : PoolId) :
    (exec (reseedPool pool) r).2.Timeless pool :=
  have hsteps : Steps AnyPopulated r (exec (reseedPool pool) r).2 :=
    reseedPool_steps admits_change hr pool
  timeless_of_dropTimers hcoherent (reseedPool_timers hr pool) hsteps.samePlan

end Registry

end SpawnForest
