import SpawnForest.Proofs.Registry.AllOrNothing
import SpawnForest.Proofs.Registry.Respawning

/-!
# Claimed room stays

A pending timer stands for an entity that is to come back, and a pool that is
filled up has to leave room for it. What it may take is worked out once, before
the first spawn, as the room that no timer lays claim to. This is enough because
a spawn spends one of the room, neither less nor more, whichever leaf the descent
ends in (`Balanced.room_exec_spawnSingle`).

Two bounds of the room show here. An unbounded room may stay as it is, and at
the minimum a leaf may still be short of entities when it has no room up to its
maximum, so that there is nothing to spend. Therefore `Spends` says no more of
the room than that it falls by so many at most, while it counts entities and
reservations exactly.
-/

namespace SpawnForest.Registry

variable {r s : Registry} {pool : PoolId} {mode : Mode} {n : Nat}

/-! ## One spawn -/

/-- A spawn in a pool with room spends one of it. -/
theorem Balanced.room_exec_spawnSingle (hr : r.Balanced) (hpos : 0 < r.forest.room pool .maximum)
    (h : exec (spawnSingle pool mode) r = (.ok true, s)) :
    r.forest.room pool .maximum ≤ s.forest.room pool .maximum + 1 ∧
      (r.forest.room pool .maximum < Pool.unbounded →
        s.forest.room pool .maximum + 1 = r.forest.room pool .maximum) := by
  obtain ⟨leaf, x, held, hdescent, hforest, hspawned⟩ := hr.exec_spawnSingle_true h
  obtain ⟨q, -, hq, hfree, -⟩ := hspawned.point
  have hcounts := hr.counts_up hq hfree leaf
  have hroom := hdescent.hasRoom_leaf (decide_eq_true hpos)
  rw [hforest]
  exact ⟨Forest.room_le_gain hr.linked hcounts hspawned.openLeaf hroom, fun hbounded =>
    Forest.room_gain hr.linked hcounts hspawned.openLeaf hroom (.inr hbounded)⟩

/-! ## Many spawns -/

/-- So many entities were spawned below a pool: its total is higher by that number, that number of
points is reserved anew, and its room is lower by that number at most. -/
structure Spends (pool : PoolId) (n : Nat) (r s : Registry) : Prop where
  total : s.forest.totalCount pool = r.forest.totalCount pool + n
  reserves : ReservesNew n r.points s.points
  room : r.forest.room pool .maximum ≤ s.forest.room pool .maximum + n

namespace Spends

variable {t : Registry} {m : Nat}

theorem zero (hforest : s.forest = r.forest) (hpoints : s.points = r.points) :
    Spends pool 0 r s := by
  refine ⟨?_, ?_, ?_⟩
  · rw [hforest, Nat.add_zero]
  · rw [hpoints]
    exact .of_alike (.refl _ _)
  · rw [hforest, Nat.add_zero]

theorem trans (h : Spends pool m r s) (h' : Spends pool n s t) : Spends pool (m + n) r t where
  total := by rw [h'.total, h.total, Nat.add_assoc]
  reserves := h.reserves.trans h'.reserves
  room := by
    have hfirst := h.room
    have hthen := h'.room
    omega

end Spends

theorem Balanced.spends_exec_spawnSingle (hr : r.Balanced) {spawned : Bool}
    (h : exec (spawnSingle pool mode) r = (.ok spawned, s)) : Spends pool spawned.toNat r s := by
  cases spawned with
  | false =>
      obtain ⟨g, rfl⟩ := hr.exec_spawnSingle_false h
      exact .zero rfl rfl
  | true =>
      obtain ⟨leaf, x, held, -, -, hspawned⟩ := hr.exec_spawnSingle_true h
      refine ⟨hspawned.counts.totalCount hr.linked hspawned.openLeaf.below,
        (exec_spawnSingle_counted hr.toPlanned h).2, ?_⟩
      rcases Nat.eq_zero_or_pos (r.forest.room pool .maximum) with hnone | hpos
      · rw [hnone]
        exact Nat.zero_le _
      · exact (hr.room_exec_spawnSingle hpos h).1

/-- A pool that is filled up takes of its unclaimed room only. -/
theorem Balanced.spends_exec_spawnPool (hr : r.Balanced)
    (h : exec (spawnPool pool 0) r = (.ok n, s)) :
    Spends pool n r s ∧ n ≤ r.unclaimedRoom pool :=
  exec_spawnPool_ok (P := Balanced) (R := Spends pool) (fun _ => .zero rfl rfl) Spends.trans
    (fun hr h => ⟨hr.balanced_exec_spawnSingle h, hr.spends_exec_spawnSingle h⟩) hr h

/-! ## Reachable registries -/

/-- Each spawn spends one of the room of the pool that it starts from, so that a pool that is filled
up keeps room for every timer of its subtree, as far as there was room for it. The answer is what
the total has grown by and how many points are reserved that were free before. -/
theorem Reachable.spawns_spend_room {rows : PoolRows}
    (hsmall : ((rows.points.map (·.point)).dedup).length < 2 ^ 32)
    (hr : Reachable rows (fun _ => True) r) (pool : PoolId) (random : Pcg) :
    (∀ mode s, 0 < r.forest.room pool .maximum →
      r.forest.room pool .maximum < Pool.unbounded →
      exec (spawnSingle pool mode) { r with random := random } = (.ok true, s) →
      s.forest.room pool .maximum = r.forest.room pool .maximum - 1) ∧
    ∀ n s, exec (spawnPool pool 0) { r with random := random } = (.ok n, s) →
      n ≤ r.forest.room pool .maximum - r.timers.pendingIn (r.forest.subtree pool) ∧
      s.forest.totalCount pool = r.forest.totalCount pool + n ∧
      (r.points.keys.filter (fun x => freeAt r.points x && !freeAt s.points x)).length = n ∧
      min (r.forest.room pool .maximum) (r.timers.pendingIn (r.forest.subtree pool)) ≤
        s.forest.room pool .maximum := by
  have hdrawn := (hr.balanced hsmall).drawn random
  refine ⟨fun mode s hpos hbounded h => ?_, fun n s h => ?_⟩
  · have hspent : s.forest.room pool .maximum + 1 = r.forest.room pool .maximum :=
      (hdrawn.room_exec_spawnSingle hpos h).2 hbounded
    omega
  · obtain ⟨hspends, hle⟩ := hdrawn.spends_exec_spawnPool h
    have hleft : r.forest.room pool .maximum ≤ s.forest.room pool .maximum + n := hspends.room
    replace hle : n ≤ r.forest.room pool .maximum - r.timers.pendingIn (r.forest.subtree pool) :=
      hle
    have hpopulates := populates_spawnPool hdrawn.toPlanned pool 0
    rw [h] at hpopulates
    refine ⟨hle, hspends.total, hspends.reserves.length_reserved ?_, by omega⟩
    exact hpopulates.plan.points.keys.symm

/-- The small map after an entity of a leaf has died. Its timer is pending. -/
def campLoss : Registry := (camp.perform (.spawnPool ⟨3⟩ 1)).perform (.handleDeath ⟨0⟩ false)

/-- The group has room for two then, and filling it up spawns one. -/
theorem spawns_spend_room_camp :
    campLoss.forest.room ⟨1⟩ .maximum = 2 ∧
      campLoss.timers.pendingIn (campLoss.forest.subtree ⟨1⟩) = 1 ∧
      (exec (spawnSingle ⟨1⟩ .maximum) { campLoss with random := .ofSeed 7 }).2.forest.room ⟨1⟩
        .maximum = 2 - 1 ∧
      (exec (spawnPool ⟨1⟩ 0) { campLoss with random := .ofSeed 7 }).1 = .ok 1 ∧
      min 2 1 ≤ (exec (spawnPool ⟨1⟩ 0) { campLoss with random := .ofSeed 7 }).2.forest.room ⟨1⟩
        .maximum := by
  have hreachable : Reachable campRows (fun _ => True) campLoss :=
    ((reachable_camp _).step _ trivial).step _ trivial
  have hroom : campLoss.forest.room ⟨1⟩ .maximum = 2 := by decide +kernel
  have hpending : campLoss.timers.pendingIn (campLoss.forest.subtree ⟨1⟩) = 1 := by decide +kernel
  have hspawned : (exec (spawnSingle ⟨1⟩ .maximum) { campLoss with random := .ofSeed 7 }).1 =
      .ok true := by decide +kernel
  have hfilled : (exec (spawnPool ⟨1⟩ 0) { campLoss with random := .ofSeed 7 }).1 = .ok 1 := by
    decide +kernel
  obtain ⟨hone, hfull⟩ := Reachable.spawns_spend_room (by decide) hreachable ⟨1⟩ (.ofSeed 7)
  rw [hroom, hpending] at hfull
  rw [hroom] at hone
  have hspent := hone .maximum _ (by decide) (by decide +kernel) (exec_eq_of_answer hspawned)
  have hleft := (hfull 1 _ (exec_eq_of_answer hfilled)).2.2.2
  refine ⟨hroom, hpending, hspent, hfilled, ?_⟩
  dsimp only
  exact hleft

end SpawnForest.Registry
