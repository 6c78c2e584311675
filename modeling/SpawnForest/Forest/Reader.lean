import SpawnForest.Forest.Pool
import SpawnForest.Plan.Reader

/-!
# Reading pools and points

The documents of single pools and points as they stand in a running map, with
everything they hold spelled out: no field of theirs has a default.
-/

namespace SpawnForest

open Json

def SpawnTimes.ofJson? (value : Json) : Option SpawnTimes := do
  let f ← value.fields? ["min_secs", "max_secs", "fast_secs"]
  return ⟨← f.required "min_secs" uint32?, ← f.required "max_secs" uint32?,
    ← f.required "fast_secs" uint32?⟩

def CorpseTimes.ofJson? (value : Json) : Option CorpseTimes := do
  let f ← value.fields? ["looted_secs", "unlooted_secs"]
  return ⟨← f.required "looted_secs" uint32?, ← f.required "unlooted_secs" uint32?⟩

def Template.ofJson? (value : Json) : Option Template := do
  let f ← value.fields? ["map_id", "pool_id", "kind", "phase_mask", "spawn_mask", "min_limit",
    "max_limit", "movement_type", "spawn_dist", "spawn_times", "corpse_times", "description",
    "flags"]
  let map ← f.required "map_id" Id.ofJson?
  let pool ← f.required "pool_id" Id.ofJson?
  let kind ← f.required "kind" SpawnKind.ofJson?
  let phaseMask ← f.required "phase_mask" uint32?
  let spawnMask ← f.required "spawn_mask" uint8?
  let minLimit ← f.required "min_limit" uint32?
  let maxLimit ← f.required "max_limit" uint32?
  let movementType ← f.required "movement_type" uint8?
  let spawnDist ← f.required "spawn_dist" single?
  let spawnTimes ← f.required "spawn_times" SpawnTimes.ofJson?
  let corpseTimes ← f.required "corpse_times" CorpseTimes.ofJson?
  let description ← f.required "description" string?
  let flags ← f.required "flags" uint32?
  return ⟨map, pool, kind, phaseMask, spawnMask, minLimit, maxLimit, movementType, spawnDist,
    spawnTimes, corpseTimes, description, ⟨flags⟩⟩

/-- The defaults and the patch of a candidate, under the word for its kind.
Unlike a record they cannot be an array. -/
def CandidateData.ofJson? (value : Json) : Option CandidateData := do
  let (mark, body) ← value.choice?
  let f ← body.namedFields? ["defaults", "override_data"]
  match mark with
  | "creature" =>
    return .creature (← f.required "defaults" CreatureDefaults.ofJson?)
      (← f.optional "override_data" CreaturePatch.ofJson?)
  | "game_object" =>
    return .gameObject (← f.required "defaults" GameObjectDefaults.ofJson?)
      (← f.optional "override_data" GameObjectPatch.ofJson?)
  | _ => none

def Candidate.ofJson? (value : Json) : Option Candidate := do
  let f ← value.fields? ["pool_id", "entry", "chance", "data"]
  return ⟨← f.required "pool_id" Id.ofJson?, ← f.required "entry" uint32?,
    ← f.required "chance" single?, ← f.required "data" CandidateData.ofJson?⟩

def Pool.ofJson? (value : Json) : Option Pool := do
  let f ← value.fields? ["template", "parent", "root", "children", "chance", "spawns_this_pool",
    "spawns_aggregate", "active", "inherits_limits", "spawn_points", "items"]
  let template ← f.required "template" Template.ofJson?
  let parent ← f.optional "parent" Id.ofJson?
  let root ← f.required "root" Id.ofJson?
  let children ← f.required "children" (listOf? Id.ofJson?)
  let chance ← f.required "chance" single?
  let ownCount ← f.required "spawns_this_pool" (upTo? 0xffffffff)
  let totalCount ← f.required "spawns_aggregate" (upTo? 0xffffffff)
  let active ← f.required "active" bool?
  let inheritsLimits ← f.required "inherits_limits" bool?
  let points ← f.required "spawn_points" (listOf? Id.ofJson?)
  let candidates ← f.required "items" (listOf? Candidate.ofJson?)
  return ⟨template, parent, root, children, chance, ownCount, totalCount, active, inheritsLimits,
    points, candidates⟩

def Reservation.ofJson? (value : Json) : Option Reservation := do
  let f ← value.fields? ["pool_id", "entry", "kind"]
  return ⟨← f.required "pool_id" Id.ofJson?, ← f.required "entry" uint32?,
    ← f.required "kind" SpawnKind.ofJson?⟩

def Remains.ofJson? (value : Json) : Option Remains := do
  let f ← value.fields? ["handle", "pool_id", "expires_at"]
  return ⟨← f.required "handle" EntityHandle.ofJson?, ← f.required "pool_id" Id.ofJson?,
    ← f.required "expires_at" Timestamp.ofJson?⟩

def SpawnPoint.ofJson? (value : Json) : Option SpawnPoint := do
  let f ← value.fields? ["id", "map_id", "position", "rotation", "grid_id", "zone_id",
    "creature_override", "game_object_override", "current_item", "current_object", "old_objects"]
  let id ← f.required "id" Id.ofJson?
  let map ← f.required "map_id" Id.ofJson?
  let position ← f.required "position" Position.ofJson?
  let rotation ← f.optional "rotation" Rotation.ofJson?
  let grid ← f.required "grid_id" Id.ofJson?
  let zone ← f.required "zone_id" Id.ofJson?
  let creaturePatch ← f.optional "creature_override" CreaturePatch.ofJson?
  let gameObjectPatch ← f.optional "game_object_override" GameObjectPatch.ofJson?
  let reservation ← f.optional "current_item" Reservation.ofJson?
  let entity ← f.optional "current_object" EntityHandle.ofJson?
  let remains ← f.required "old_objects" (listOf? Remains.ofJson?)
  return ⟨id, map, position, rotation, grid, zone, creaturePatch, gameObjectPatch, reservation,
    entity, remains⟩

end SpawnForest
