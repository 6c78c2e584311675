import SpawnForest.Console.Command
import SpawnForest.Report.Basic

/-!
# Running commands

A command concerns the registry of one map, found in a directory of maps. The
two reports change nothing; the other commands answer with the number of
entities they spawned or of points they freed.
-/

namespace SpawnForest.Console

inductive Output where
  | roots (pools : List PoolSummary)
  | dump (dump : PoolDump)
  /-- What was done to a pool, and how many entities or points it touched. -/
  | changed (action : String) (pool : PoolId) (count : Nat)

def Output.display : Output → String
  | roots [] => "no pools\n"
  | roots pools => String.join (pools.map (fun s => s.display ++ "\n"))
  | dump d => d.display
  | changed action pool count =>
    action ++ " " ++ pool.display ++ ": " ++ Text.decimal count ++ "\n"

inductive ConsoleError where
  | parse (error : ParseError)
  | unknownMap (map : MapId)
  | pool (error : PoolError)
deriving DecidableEq

def ConsoleError.message : ConsoleError → String
  | parse (.unknownCommand name) => "unknown command: " ++ Text.quoted name
  | parse (.malformedArguments command reason) =>
    "malformed arguments for " ++ command ++ ": " ++ reason.message
  | unknownMap map => "map " ++ map.display ++ " is not loaded"
  | pool error => error.message

def Verb.done : Verb → String
  | dump => "dumped"
  | respawn => "respawned"
  | despawn => "despawned"
  | reseed => "reseeded"
  | activate => "activated"
  | deactivate => "deactivated"

/-- Runs an operation on a pool that has to be there. -/
def onKnown (pool : PoolId) (operation : Action Nat) : Action (Except PoolError Nat) := do
  match (← get).requirePool pool with
  | .ok _ => return .ok (← operation)
  | .error e => return .error e

/-- Switches a pool on or off. The switch finds out by itself whether the pool is there. -/
def switch (pool : PoolId) (active : Bool) : Action (Except PoolError Nat) := do
  match ← Registry.setActive pool active with
  | some count => return .ok count
  | none => return .error (.unknownPool pool)

def Verb.perform (verb : Verb) (pool : PoolId) : Action (Except PoolError Output) := do
  let changed : Except PoolError Nat → Except PoolError Output := .map (.changed verb.done pool)
  match verb with
  | dump => return ((← get).dumpPool pool).map .dump
  | respawn => return changed (← onKnown pool (Registry.respawnPool pool))
  | despawn => return changed (← onKnown pool (modifyGet (·.despawnPool pool true)))
  | reseed => return changed (← onKnown pool (Registry.reseedPool pool))
  | activate => return changed (← switch pool true)
  | deactivate => return changed (← switch pool false)

def Command.perform : Command → Action (Except PoolError Output)
  | list _ => return .ok (.roots (← get).listRoots)
  | onPool verb _ pool => verb.perform pool

/-- Maps by number, each with a registry. -/
class MapDirectory (δ : Type) where
  registry? : δ → MapId → Option Registry
  setRegistry : δ → MapId → Registry → δ

instance : MapDirectory (Table MapId Registry) where
  registry? maps map := maps.get? map
  setRegistry maps map r := maps.insert map r

def execute {δ : Type} [MapDirectory δ] (maps : δ) (command : Command) :
    Except Fault (Except ConsoleError Output) × δ :=
  match MapDirectory.registry? maps command.map with
  | none => (.ok (.error (.unknownMap command.map)), maps)
  | some r =>
    let (result, r) := command.perform.run.run r
    (result.map (·.mapError .pool), MapDirectory.setRegistry maps command.map r)

def executeLine {δ : Type} [MapDirectory δ] (maps : δ) (line : String) :
    Except Fault (Except ConsoleError Output) × δ :=
  match parse line with
  | .error e => (.ok (.error (.parse e)), maps)
  | .ok command => execute maps command

end SpawnForest.Console
