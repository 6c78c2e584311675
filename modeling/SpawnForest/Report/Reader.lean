import SpawnForest.Plan.Reader
import SpawnForest.Report.Basic

/-!
# Reading reports

Reports are also handed on as documents; these readers take them back. A
report inside a console output is read in a second pass, where kinds have one
more spelling, so the readers are told how a kind is read.
-/

namespace SpawnForest

open Json

def count? (value : Json) : Option Nat := value.upTo? 0xffffffffffffffff

def entityCount? (value : Json) : Option Nat := value.upTo? 0xffffffff

def PoolSummary.read? (kind? : Json → Option SpawnKind) (value : Json) : Option PoolSummary := do
  let f ← value.fields? ["pool_id", "description", "kind", "min_limit", "max_limit", "spawned",
    "active", "children", "pending_respawns"]
  let pool ← f.required "pool_id" Id.ofJson?
  let description ← f.required "description" string?
  let kind ← f.required "kind" kind?
  let minLimit ← f.required "min_limit" uint32?
  let maxLimit ← f.required "max_limit" uint32?
  let spawned ← f.required "spawned" entityCount?
  let active ← f.required "active" bool?
  let children ← f.required "children" count?
  let pending ← f.required "pending_respawns" count?
  return ⟨pool, description, kind, minLimit, maxLimit, spawned, active, children, pending⟩

def PoolSummary.ofJson? (value : Json) : Option PoolSummary := read? SpawnKind.ofJson? value

def OccupiedPoint.ofJson? (value : Json) : Option OccupiedPoint := do
  let f ← value.fields? ["point_id", "entry", "entity"]
  return ⟨← f.required "point_id" Id.ofJson?, ← f.required "entry" uint32?,
    ← f.optional "entity" count?⟩

namespace PoolDump

/-- Reads a dump at most `bound` levels deep. -/
def readAt? (kind? : Json → Option SpawnKind) : Nat → Json → Option PoolDump
  | 0, _ => none
  | bound + 1, value => do
    let f ← value.fields? ["pool_id", "description", "kind", "min_limit", "max_limit", "chance",
      "spawned", "min_spawnable", "max_spawnable", "occupied", "children"]
    let pool ← f.required "pool_id" Id.ofJson?
    let description ← f.required "description" string?
    let kind ← f.required "kind" kind?
    let minLimit ← f.required "min_limit" uint32?
    let maxLimit ← f.required "max_limit" uint32?
    let chance ← f.required "chance" single?
    let spawned ← f.required "spawned" entityCount?
    let minRoom ← f.required "min_spawnable" entityCount?
    let maxRoom ← f.required "max_spawnable" entityCount?
    let occupied ← f.required "occupied" (listOf? OccupiedPoint.ofJson?)
    let children ← f.required "children" (listOf? (readAt? kind? bound))
    return .node ⟨pool, description, kind, minLimit, maxLimit, chance, spawned, minRoom, maxRoom,
      occupied⟩ children

/-- Each level of a dump is two levels of arrays and objects, of which a reader
follows `Json.Reader.deepestLevel`. -/
def read? (kind? : Json → Option SpawnKind) (value : Json) : Option PoolDump :=
  readAt? kind? (Reader.deepestLevel / 2 + 1) value

def ofJson? (value : Json) : Option PoolDump := read? SpawnKind.ofJson? value

end PoolDump

end SpawnForest
