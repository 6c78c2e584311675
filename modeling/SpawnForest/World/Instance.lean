import SpawnForest.Registry.Removal

/-!
# A running map

An instance is a registry with the zones that somebody is near to. Each tick
runs the due timers of those zones, destroys remains whose time has run out,
and counts itself. Timers of other zones wait; they are data, and nothing
sleeps.
-/

namespace SpawnForest

structure MapInstance where
  config : InstanceConfig
  registry : Registry
  activeZones : KeySet ZoneId
  ticks : Nat

abbrev InstanceAction (α : Type) := ExceptT Fault (StateM MapInstance) α

structure TickSummary where
  tick : Nat
  respawned : Nat
  expired : Nat
deriving DecidableEq

namespace MapInstance

def onRegistry {α : Type} (action : Action α) : InstanceAction α := do
  let i ← get
  let (result, r) := action.run.run i.registry
  set { i with registry := r }
  match result with
  | .ok a => return a
  | .error fault => throw fault

/-- Runs an operation that cannot break off. -/
def onRegistryPure {α : Type} (change : Registry → α × Registry) : InstanceAction α := do
  let i ← get
  let (a, r) := change i.registry
  set { i with registry := r }
  return a

/-- The instance of a plan, populated if its settings ask for it. -/
def load (plan : MapPlan) (host : Host) : Except Fault (Except PoolError MapInstance) :=
  match Registry.load plan.map plan.rows host plan.config.registry with
  | .error e => .ok (.error e)
  | .ok r =>
    if plan.config.spawnOnLoad then
      match Registry.spawnAll.run.run r with
      | (.ok _, r) => .ok (.ok ⟨plan.config, r, .empty, 0⟩)
      | (.error fault, _) => .error fault
    else .ok (.ok ⟨plan.config, r, .empty, 0⟩)

def map (i : MapInstance) : MapId := i.registry.map

/-- Watches a zone from now on, and runs its due timers right away. -/
def activateZone (zone : ZoneId) : InstanceAction Nat := do
  modify (fun i => { i with activeZones := i.activeZones.add zone })
  onRegistry (Registry.respawnZone zone)

/-- Stops watching a zone; false if it was not watched. -/
def deactivateZone (i : MapInstance) (zone : ZoneId) : Bool × MapInstance :=
  (i.activeZones.contains zone, { i with activeZones := i.activeZones.erase zone })

def populatedZones (i : MapInstance) : List ZoneId :=
  (KeySet.ofList (i.registry.points.values.map (·.zone))).keys

/-- A grid has been loaded: makes what waits there and runs its due timers. -/
def gridLoaded (grid : GridId) : InstanceAction Nat := do
  let made ← onRegistryPure (·.onGridLoaded grid)
  return made + (← onRegistry (Registry.respawnGrid grid))

def gridUnloaded (i : MapInstance) (grid : GridId) : Nat × MapInstance :=
  let (unloaded, r) := i.registry.onGridUnloaded grid
  (unloaded, { i with registry := r })

def respawnZones : List ZoneId → Action Nat
  | [] => return 0
  | zone :: rest => do
    let spawned ← Registry.respawnZone zone
    return spawned + (← respawnZones rest)

def tick : InstanceAction TickSummary := do
  let respawned ← onRegistry (respawnZones (← get).activeZones.keys)
  let expired ← onRegistryPure Registry.expireRemains
  modify (fun i => { i with ticks := i.ticks + 1 })
  return ⟨(← get).ticks, respawned, expired⟩

end MapInstance

end SpawnForest
