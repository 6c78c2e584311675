import Mathlib.Logic.Relation
import SpawnForest.Proofs.Registry.Running
import SpawnForest.Table.Lemmas

/-!
# Elementary changes

Every operation on a running registry comes down to a few elementary changes,
each of them one step of the bookkeeping that is never seen half done: a draw,
a reservation with its count, an entity attached, a death, and so on. What is
to hold of every reachable registry is shown for each elementary change, and
what an operation does is shown by taking it apart into changes (`Steps`).

Changes are told apart further only where something depends on it: a
reservation is made where `may` allows it, so that restrictions on the way in
which points are chosen can be carried through whole operations.
-/

namespace SpawnForest

/-- What happens to a host without the registry. -/
inductive HostChange where
  | advance (secs : Nat)
  | setNow (now : Timestamp)
  | setGridLoaded (grid : GridId) (loaded : Bool)
  | reject (entry : UInt32)

def HostChange.apply (h : Host) : HostChange → Host
  | advance secs => h.advance secs
  | setNow now => h.setNow now
  | setGridLoaded grid loaded => h.setGridLoaded grid loaded
  | reject entry => h.reject entry

namespace Registry

/-- One elementary change of a registry. A point may be reserved for a leaf only if `may` allows
it at that moment. -/
inductive Change (may : Registry → PoolId → PointId → Prop) : Registry → Registry → Prop
  | draw (r : Registry) (random : Pcg) : Change may r { r with random := random }
  | schedule (r : Registry) (timers : Schedule) : Change may r { r with timers := timers }
  | host (r : Registry) (change : HostChange) :
      Change may r { r with host := change.apply r.host }
  | activate (r : Registry) (pool : PoolId) (active : Bool) :
      Change may r { r with forest := r.forest.modify pool (fun p => { p with active := active }) }
  | patch {r s : Registry} (scope : PatchScope) (patch : Patch)
      (h : r.applyPatch? scope patch = some s) : Change may r s
  | reserve {r : Registry} {kind : SpawnKind} {pool : PoolId} {entry : UInt32} {point : PointId}
      {p : SpawnPoint} (hcandidate : r.hasCandidate kind pool entry = true)
      (hpoint : r.points.get? point = some p) (hfree : p.reservation = none)
      (hmay : may r pool point) : Change may r (r.reserve point ⟨pool, entry, kind⟩)
  | materialize {r s : Registry} (point : PointId) (h : r.materialize? point = some s) :
      Change may r s
  /-- A reservation without an entity is taken back. -/
  | withdraw {r : Registry} {point : PointId} {p : SpawnPoint} {held : Reservation}
      (hpoint : r.points.get? point = some p) (hheld : p.reservation = some held)
      (hentity : p.entity = none) : Change may r (r.release point held.pool)
  | vacate {r : Registry} {p : SpawnPoint} {held : Reservation}
      (hpoint : r.points.get? p.id = some p) (hheld : p.reservation = some held) :
      Change may r (r.vacate p)
  | bury {r : Registry} {handle : EntityHandle} {spawn : LiveSpawn} {p : SpawnPoint}
      (hlive : r.live.get? handle = some spawn) (hpoint : r.points.get? spawn.point = some p)
      (corpseSecs : Nat) : Change may r (r.bury handle spawn corpseSecs)
  /-- An entity leaves its point, which stays reserved. -/
  | unlink {r : Registry} {handle : EntityHandle} {spawn : LiveSpawn}
      (hlive : r.live.get? handle = some spawn) : Change may r (r.unlink handle spawn)
  /-- An entity leaves its point, and the registry destroys it. -/
  | unload {r : Registry} {handle : EntityHandle} {spawn : LiveSpawn}
      (hlive : r.live.get? handle = some spawn) :
      Change may r { r.unlink handle spawn with host := r.host.destroy handle }
  /-- An entity leaves its point, which becomes free. -/
  | depart {r : Registry} {handle : EntityHandle} {spawn : LiveSpawn} {p : SpawnPoint}
      (hlive : r.live.get? handle = some spawn) (hpoint : r.points.get? spawn.point = some p) :
      Change may r ((r.unlink handle spawn).release spawn.point spawn.pool)
  /-- An entity that was spawned from something unknown is forgotten. -/
  | forget {r : Registry} {handle : EntityHandle} {spawn : LiveSpawn}
      (hlive : r.live.get? handle = some spawn)
      (hlost : r.points.get? spawn.point = none ∨ r.forest.get? spawn.pool = none) :
      Change may r { r with live := r.live.erase handle }
  | clear (r : Registry) (gone : Remains → Bool) : Change may r (r.clearRemains gone).2

/-- Any number of elementary changes in a row. -/
abbrev Steps (may : Registry → PoolId → PointId → Prop) : Registry → Registry → Prop :=
  Relation.ReflTransGen (Change may)

variable {may may' : Registry → PoolId → PointId → Prop}

theorem Change.mono {r s : Registry} (h : Change may r s)
    (hmay : ∀ leaf point, may r leaf point → may' r leaf point) : Change may' r s := by
  cases h with
  | draw random => exact .draw r random
  | schedule timers => exact .schedule r timers
  | host change => exact .host r change
  | activate pool active => exact .activate r pool active
  | patch scope patch h => exact .patch scope patch h
  | reserve hcandidate hpoint hfree h => exact .reserve hcandidate hpoint hfree (hmay _ _ h)
  | materialize point h => exact .materialize point h
  | withdraw hpoint hheld hentity => exact .withdraw hpoint hheld hentity
  | vacate hpoint hheld => exact .vacate hpoint hheld
  | bury hlive hpoint corpseSecs => exact .bury hlive hpoint corpseSecs
  | unlink hlive => exact .unlink hlive
  | unload hlive => exact .unload hlive
  | depart hlive hpoint => exact .depart hlive hpoint
  | forget hlive hlost => exact .forget hlive hlost
  | clear gone => exact .clear r gone

/-- What each change keeps is kept by any number of them. -/
theorem Steps.keep {P : Registry → Prop} {r s : Registry} (h : Steps may r s)
    (keep : ∀ {r s}, Change may r s → P r → P s) (hr : P r) : P s := by
  induction h with
  | refl => exact hr
  | tail _ change ih => exact keep change ih

/-- An operation after another one takes its steps after the other's, whatever the steps are. -/
theorem steps_bind {α β : Type} {step : Registry → Registry → Prop} {x : Action α}
    {f : α → Action β} {r : Registry} (hx : Relation.ReflTransGen step r (exec x r).2)
    (hf : ∀ a s, exec x r = (.ok a, s) → Relation.ReflTransGen step s (exec (f a) s).2) :
    Relation.ReflTransGen step r (exec (x >>= f) r).2 := by
  rw [exec_bind]
  cases h : exec x r with
  | mk answer s =>
      rw [h] at hx
      cases answer with
      | error fault => exact hx
      | ok a => exact hx.trans (hf a s h)

end Registry

end SpawnForest
