import SpawnForest.Forest.Choice
import SpawnForest.Forest.Counts
import SpawnForest.Host
import SpawnForest.Layers
import SpawnForest.Plan.Rows
import SpawnForest.Random.Pcg
import SpawnForest.Timer.Schedule

/-!
# The registry of a map

One registry owns everything of one map: its pools, points, patches, timers
and random source, the table of live entities, and the host that carries them.
Registries share nothing.

An operation is an `Action`: it changes the registry and either answers or
breaks off with a fault, and in both cases the changes made so far stand.
-/

namespace SpawnForest

/-- How many rows of each sort were accepted on loading, and how many were not. -/
structure LoadReport where
  templates : Nat
  edges : Nat
  points : Nat
  assignments : Nat
  candidates : Nat
  patches : Nat
  skipped : Nat
  leavesWithoutCandidates : Nat
deriving DecidableEq

def LoadReport.zero : LoadReport := ⟨0, 0, 0, 0, 0, 0, 0, 0⟩

structure LiveSpawn where
  kind : SpawnKind
  pool : PoolId
  point : PointId
  entry : UInt32
deriving DecidableEq

structure Registry where
  map : MapId
  config : RegistryConfig
  host : Host
  random : Pcg
  forest : Forest
  points : Table PointId SpawnPoint
  patches : PairPatches
  timers : Schedule
  live : Table EntityHandle LiveSpawn
  report : LoadReport

abbrev Action (α : Type) := ExceptT Fault (StateM Registry) α

namespace Registry

def empty (map : MapId) (host : Host) (config : RegistryConfig) : Registry where
  map := map
  config := config
  host := host
  random := .ofSeed config.seed
  forest := .empty
  points := .empty
  patches := .empty
  timers := .empty config.recheckSecs
  live := .empty
  report := .zero

/-! ## Questions -/

def pool? (r : Registry) (id : PoolId) : Option Pool := r.forest.get? id

def requirePool (r : Registry) (id : PoolId) : Except PoolError Pool :=
  match r.forest.get? id with
  | some pool => .ok pool
  | none => .error (.unknownPool id)

def point? (r : Registry) (id : PointId) : Option SpawnPoint := r.points.get? id

def rootPools (r : Registry) : List PoolId := r.forest.roots.map (·.id)

def liveCount (r : Registry) : Nat := r.live.size

def now (r : Registry) : Timestamp := r.host.now

/-- The points reserved by the subtree of a pool, with their reservations. -/
def occupiedPoints (r : Registry) (pool : PoolId) : List (PointId × Reservation) :=
  let members := r.forest.subtree pool
  r.points.values.filterMap fun p =>
    match p.reservation with
    | some held => if members.contains held.pool then some (p.id, held) else none
    | none => none

def liveEntities (r : Registry) : List EntityHandle := r.points.values.filterMap (·.entity)

/-! ## Changes of a part -/

def modifyPoint (r : Registry) (id : PointId) (change : SpawnPoint → SpawnPoint) : Registry :=
  { r with points := r.points.modify id change }

/-- A random choice, drawn from the registry's own source. -/
def choose {α : Type} (pick : Pcg → Except Fault (α × Pcg)) : Action α := do
  match pick (← get).random with
  | .error fault => throw fault
  | .ok (a, random) =>
    modify fun r => { r with random := random }
    return a

end Registry

end SpawnForest
