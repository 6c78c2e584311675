import SpawnForest.Console.Execute
import SpawnForest.Plan.Reader
import SpawnForest.World.Instance

/-!
# The maps of a world

The manager owns the instances of a world by map. Instances know nothing of
each other; the manager ticks them in the order of their numbers.
-/

namespace SpawnForest

/-- Why a world or one of its maps is refused. -/
inductive WorldError where
  /-- The document cannot be read from where it is stored. -/
  | unreadable
  | malformed
  | unknownMap (map : MapId)
  | duplicateMap (map : MapId)
  | pool (error : PoolError)
deriving DecidableEq

def WorldError.message : WorldError → String
  | unreadable => "unreadable world"
  | malformed => "malformed world"
  | unknownMap map => "map " ++ map.display ++ " is not loaded"
  | duplicateMap map => "map " ++ map.display ++ " is already loaded"
  | pool error => error.message

structure Manager where
  instances : Table MapId MapInstance

abbrev ManagerAction (α : Type) := ExceptT Fault (StateM Manager) α

namespace Manager

def empty : Manager := ⟨.empty⟩

def instance? (m : Manager) (map : MapId) : Option MapInstance := m.instances.get? map

/-- The instance of a map, or the error that there is none. -/
def require (m : Manager) (map : MapId) : Except WorldError MapInstance :=
  match m.instance? map with
  | some i => .ok i
  | none => .error (.unknownMap map)

def setInstance (m : Manager) (map : MapId) (i : MapInstance) : Manager :=
  ⟨m.instances.insert map i⟩

def maps (m : Manager) : List MapId := m.instances.keys

/-- Loads one more map on a host of its own. -/
def loadMap (m : Manager) (plan : MapPlan) (host : Host) :
    Except Fault (Except WorldError Manager) :=
  if m.instances.contains plan.map then .ok (.error (.duplicateMap plan.map))
  else
    match MapInstance.load plan host with
    | .error fault => .error fault
    | .ok (.error e) => .ok (.error (.pool e))
    | .ok (.ok i) => .ok (.ok (m.setInstance plan.map i))

/-- Loads maps in turn, each on a fresh host. -/
def loadMaps (m : Manager) : List MapPlan → Except Fault (Except WorldError Manager)
  | [] => .ok (.ok m)
  | plan :: rest =>
    match m.loadMap plan .fresh with
    | .ok (.ok m) => m.loadMaps rest
    | failed => failed

def ofPlan (world : WorldPlan) : Except Fault (Except WorldError Manager) :=
  empty.loadMaps world.maps

def unload (m : Manager) (map : MapId) : Manager := ⟨m.instances.erase map⟩

/-! ## Time -/

/-- Runs an operation on the instance of a map, if it is loaded. -/
def onInstance {α : Type} (map : MapId) (action : InstanceAction α) : ManagerAction (Option α) := do
  match (← get).instance? map with
  | none => return none
  | some i =>
    let (result, i) := action.run.run i
    modify (·.setInstance map i)
    match result with
    | .ok a => return some a
    | .error fault => throw fault

def tickMaps : List MapId → ManagerAction (List (MapId × TickSummary))
  | [] => return []
  | map :: rest => do
    let summary ← onInstance map MapInstance.tick
    let others ← tickMaps rest
    return (summary.map (fun s => (map, s))).toList ++ others

def tickAll : ManagerAction (List (MapId × TickSummary)) := do
  tickMaps (← get).maps

/-- Advances the clock of an instance by its tick length. -/
def advanceClock (i : MapInstance) : MapInstance :=
  { i with
    registry := { i.registry with host := i.registry.host.advance i.config.tickSecs.toNat } }

def step : ManagerAction (List (MapId × TickSummary)) := do
  modify (fun m => ⟨m.instances.map (fun _ i => advanceClock i)⟩)
  tickAll

instance : Console.MapDirectory Manager where
  registry? m map := (m.instance? map).map (·.registry)
  setRegistry m map r := ⟨m.instances.modify map (fun i => { i with registry := r })⟩

end Manager

end SpawnForest
