import SpawnForest.World.Manager
import SpawnForest.World.Snapshot

/-!
# Simulation without a game

The command line program loads a world, watches every zone that has points,
and ticks, killing a share of the living so that respawning has work to do.
After the last tick it prints what happened, runs console commands, and may
store the timers of all maps.

Everything but the reading and writing of files is here: `Simulation.run` maps
the arguments and the documents at hand to the text to print and to what is
left to do.
-/

namespace SpawnForest.Simulation

inductive Failure where
  | missingValue (flag : String)
  | badNumber (flag : String)
  | unknownFlag (flag : String)
  | noWorld
  | loading (path : String)
  | building
  | command (line : String)
  | writing (path : String)
deriving DecidableEq

def Failure.message : Failure → String
  | missingValue flag => flag ++ " needs a value"
  | badNumber flag => flag
  | unknownFlag flag => "unknown flag " ++ flag
  | noWorld =>
    "usage: mappool-sim <world.json> [--ticks N] [--kill-every N] [--timers OUT] [--cmd LINE]"
  | loading path => "loading " ++ path
  | building => "building map instances"
  | command line => "console command " ++ Text.quoted line
  | writing path => "writing " ++ path

/-! ## Arguments -/

structure Options where
  world : String
  ticks : Nat
  /-- Every so many ticks some of the living are killed; never if zero. -/
  killEvery : Nat
  timersPath : Option String
  commands : List String
deriving DecidableEq

def Options.initial : Options := ⟨"", 600, 7, none, []⟩

def readCount (flag value : String) : Except Failure Nat :=
  match Text.readNumeral 0xffffffffffffffff value.toList with
  | some n => .ok n
  | none => .error (.badNumber flag)

def setFlag (o : Options) (flag value : String) : Except Failure Options :=
  match flag with
  | "--ticks" => return { o with ticks := ← readCount flag value }
  | "--kill-every" => return { o with killEvery := ← readCount flag value }
  | "--timers" => return { o with timersPath := some value }
  | "--cmd" => return { o with commands := o.commands ++ [value] }
  | _ => throw (.unknownFlag flag)

def flags : List String := ["--ticks", "--kill-every", "--timers", "--cmd"]

/-- The options so far and whether a world was named, changed by the rest of the arguments. -/
def readArguments (o : Options) (named : Bool) : List String → Except Failure Options
  | [] => if named then .ok o else .error .noWorld
  | [word] =>
    if flags.contains word then .error (.missingValue word)
    else if word.startsWith "--" then .error (.unknownFlag word)
    else .ok { o with world := word }
  | word :: next :: rest =>
    if flags.contains word then
      match setFlag o word next with
      | .error e => .error e
      | .ok o => readArguments o named rest
    else if word.startsWith "--" then .error (.unknownFlag word)
    else readArguments { o with world := word } true (next :: rest)

def Options.ofArguments (arguments : List String) : Except Failure Options :=
  readArguments .initial false arguments

/-! ## Ticks -/

structure Tally where
  killed : Nat
  respawned : Nat
  expired : Nat
deriving DecidableEq

/-- Every `step + 1`-th member of a list, starting `skip` members in. -/
def everyNth {α : Type} (step : Nat) : Nat → List α → List α
  | _, [] => []
  | 0, a :: rest => a :: everyNth step step rest
  | skip + 1, _ :: rest => everyNth step skip rest

/-- Kills entities in turn, and counts those that were alive. -/
def killAll (looted : Bool) : List EntityHandle → Action Nat
  | [] => return 0
  | handle :: rest => do
    let died ← Registry.handleDeath handle looted
    return (← killAll looted rest) + died.toNat

/-- Kills every third entity of each map, and counts them. -/
def killShare (looted : Bool) : List MapId → ManagerAction Nat
  | [] => return 0
  | map :: rest => do
    let killed ← Manager.onInstance map (MapInstance.onRegistry do
      killAll looted (everyNth 2 0 (← get).liveEntities))
    return (← killShare looted rest) + killed.getD 0

/-- The remaining ticks, the next one numbered `tick`. -/
def runTicks (killEvery : Nat) : Nat → Nat → Tally → ManagerAction Tally
  | 0, _, tally => return tally
  | remaining + 1, tick, tally => do
    let killed ←
      if 0 < killEvery && tick % killEvery == 0 then
        killShare (tick % 2 == 0) (← get).maps
      else pure 0
    let summaries := (← Manager.step).map (·.2)
    runTicks killEvery remaining (tick + 1)
      { killed := tally.killed + killed
        respawned := tally.respawned + (summaries.map (·.respawned)).sum
        expired := tally.expired + (summaries.map (·.expired)).sum }

def watchZones : List ZoneId → InstanceAction Unit
  | [] => return ()
  | zone :: rest => do
    let _ ← MapInstance.activateZone zone
    watchZones rest

def watchMaps : List MapId → ManagerAction Unit
  | [] => return ()
  | map :: rest => do
    let _ ← Manager.onInstance map do
      watchZones (← get).populatedZones
    watchMaps rest

/-! ## What is printed -/

def tallyLine (ticks : Nat) (t : Tally) : String :=
  "ran " ++ Text.decimal ticks ++ " ticks: " ++ Text.decimal t.killed ++ " killed, "
    ++ Text.decimal t.respawned ++ " respawned, " ++ Text.decimal t.expired
    ++ " corpses expired\n"

def mapLine (map : MapId) (i : MapInstance) : String :=
  map.display ++ ": " ++ Text.decimal i.registry.liveCount ++ " live, "
    ++ Text.decimal i.registry.timers.size ++ " pending timers, state " ++ i.registry.stateHash
    ++ "\n"

inductive Ending where
  | done
  | failed (failure : Failure)
  | broken (fault : Fault)
  /-- A file is left to be written; the last text is printed once it is. -/
  | write (path content printed : String)

structure Outcome where
  printed : String
  ending : Ending

/-- Runs console lines in turn, adding what they print. -/
def runCommands (printed : String) (m : Manager) : List String → Except Outcome (String × Manager)
  | [] => .ok (printed, m)
  | line :: rest =>
    match Console.executeLine m line with
    | (.error fault, _) => .error ⟨printed, .broken fault⟩
    | (.ok (.error _), _) => .error ⟨printed, .failed (.command line)⟩
    | (.ok (.ok output), m) => runCommands (printed ++ output.display) m rest

/-- Stores the timers of all maps, if a file is named for them. -/
def storeTimers (printed : String) (m : Manager) : Option String → Outcome
  | none => ⟨printed, .done⟩
  | some path =>
    let snapshots := m.instances.values.map TimerSnapshot.capture
    ⟨printed, .write path (Json.list (snapshots.map (·.toJson))).pretty
      ("wrote " ++ Text.decimal snapshots.length ++ " timer snapshots to " ++ path ++ "\n")⟩

/-- Everything that comes after the maps are loaded. -/
def simulate (o : Options) (m : Manager) : Outcome :=
  let ticks : ManagerAction Tally := do
    watchMaps (← get).maps
    runTicks o.killEvery o.ticks 1 ⟨0, 0, 0⟩
  match ticks.run.run m with
  | (.error fault, _) => ⟨"", .broken fault⟩
  | (.ok tally, m) =>
    let printed := tallyLine o.ticks tally
      ++ String.join (m.instances.entries.map (fun (map, i) => mapLine map i))
    match runCommands printed m o.commands with
    | .error outcome => outcome
    | .ok (printed, m) => storeTimers printed m o.timersPath

/-- The whole program, over a way to look up documents. -/
def run (arguments : List String) (document? : String → Option String) : Outcome :=
  match Options.ofArguments arguments with
  | .error failure => ⟨"", .failed failure⟩
  | .ok o =>
    match (document? o.world).bind WorldPlan.ofText? with
    | none => ⟨"", .failed (.loading o.world)⟩
    | some world =>
      match Manager.ofPlan world with
      | .error fault => ⟨"", .broken fault⟩
      | .ok (.error _) => ⟨"", .failed .building⟩
      | .ok (.ok m) => simulate o m

end SpawnForest.Simulation
