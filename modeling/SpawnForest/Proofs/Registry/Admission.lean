import SpawnForest.Proofs.Registry.Plan
import SpawnForest.Proofs.Registry.Tending

/-!
# Steps that operations are made of

What an operation does can be told in steps of more than one sort: as
elementary changes, as changes that let no entity go, or as steps that say of
one part of the registry how it moves. The operations are taken apart once, for
every sort of step. A relation admits operations if it has a step for each
elementary change that they are made of, where a point may be reserved only if
`may` allows it (`Admits`). Spawning needs the four changes of `Spawns` alone,
so that what these leave untouched is untouched by spawning of every sort.

Switching a pool on or off is not among the admitted changes, and neither is a
reported despawn. The operations that do this ask for their own step.
-/

namespace SpawnForest.Registry

variable {may : Registry → PoolId → PointId → Prop} {step : Registry → Registry → Prop}
  {r s : Registry}

/-- A relation that has the steps of a spawn: a draw, a reservation, the making of its entity, and
the taking back of a reservation that has none. -/
structure Spawns (may : Registry → PoolId → PointId → Prop) (step : Registry → Registry → Prop) :
    Prop where
  samePlan : ∀ {r s : Registry}, step r s → SamePlan r s
  draw : ∀ (r : Registry) (random : Pcg), step r { r with random := random }
  reserve : ∀ {r : Registry} {kind : SpawnKind} {pool : PoolId} {entry : UInt32} {point : PointId}
    {p : SpawnPoint}, r.hasCandidate kind pool entry = true → r.points.get? point = some p →
    p.reservation = none → may r pool point → step r (r.reserve point ⟨pool, entry, kind⟩)
  materialize : ∀ {r s : Registry} {point : PointId}, r.materialize? point = some s → step r s
  withdraw : ∀ {r : Registry} {point : PointId} {p : SpawnPoint} {held : Reservation},
    r.points.get? point = some p → p.reservation = some held → p.entity = none →
    step r (r.release point held.pool)

/-- A relation that has the steps of all operations, but for switches and reported despawns. -/
structure Admits (may : Registry → PoolId → PointId → Prop) (step : Registry → Registry → Prop) :
    Prop extends Spawns may step where
  schedule : ∀ (r : Registry) (timers : Schedule), step r { r with timers := timers }
  host : ∀ (r : Registry) (change : HostChange), step r { r with host := change.apply r.host }
  patch : ∀ {r s : Registry} {scope : PatchScope} {patch : Patch},
    r.applyPatch? scope patch = some s → step r s
  vacate : ∀ {r : Registry} {p : SpawnPoint} {held : Reservation},
    r.points.get? p.id = some p → p.reservation = some held → step r (r.vacate p)
  bury : ∀ {r : Registry} {handle : EntityHandle} {spawn : LiveSpawn} {p : SpawnPoint},
    r.live.get? handle = some spawn → r.points.get? spawn.point = some p →
    ∀ corpseSecs, step r (r.bury handle spawn corpseSecs)
  unload : ∀ {r : Registry} {handle : EntityHandle} {spawn : LiveSpawn},
    r.live.get? handle = some spawn →
    step r { r.unlink handle spawn with host := r.host.destroy handle }
  forget : ∀ {r : Registry} {handle : EntityHandle} {spawn : LiveSpawn},
    r.live.get? handle = some spawn →
    (r.points.get? spawn.point = none ∨ r.forest.get? spawn.pool = none) →
    step r { r with live := r.live.erase handle }
  clear : ∀ (r : Registry) (gone : Remains → Bool), step r (r.clearRemains gone).2

theorem Spawns.samePlan_of_steps (hs : Spawns may step) (h : Relation.ReflTransGen step r s) :
    SamePlan r s := by
  induction h with
  | refl => exact .refl r
  | tail _ hstep ih => exact ih.trans (hs.samePlan hstep)

/-- What holds of the plan holds after any number of steps. -/
theorem Spawns.planned_of_steps (hs : Spawns may step) (h : Relation.ReflTransGen step r s)
    (hr : r.Planned) : s.Planned :=
  (hs.samePlan_of_steps h).planned hr

theorem admits_tended : Admits may (Tended may) where
  samePlan h := h.samePlan
  draw := .draw
  reserve := .reserve
  materialize := .materialize _
  withdraw := .withdraw
  schedule := .schedule
  host := .host
  patch := .patch _ _
  vacate := .vacate
  bury := .bury
  unload := .unload
  forget := .forget
  clear := .clear

theorem admits_change : Admits may (Change may) where
  samePlan h := h.samePlan
  draw := .draw
  reserve := .reserve
  materialize := .materialize _
  withdraw := .withdraw
  schedule := .schedule
  host := .host
  patch := .patch _ _
  vacate := .vacate
  bury := .bury
  unload := .unload
  forget := .forget
  clear := .clear

end SpawnForest.Registry
