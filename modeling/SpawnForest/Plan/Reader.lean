import SpawnForest.Json.Record
import SpawnForest.Plan.Rows

/-!
# Reading worlds

How each record of a world document is spelled. The names of the fields, their
order and which of them may be missing are the document format; a document
that breaks it anywhere is refused as a whole.
-/

namespace SpawnForest

open Json

/-! ## Parts -/

def Id.ofJson? {realm : Realm} (value : Json) : Option (Id realm) := value.uint32?.map Id.mk

def Timestamp.ofJson? (value : Json) : Option Timestamp := value.uint64?.map Timestamp.mk

def EntityHandle.ofJson? (value : Json) : Option EntityHandle :=
  (value.upTo? 0xffffffffffffffff).map EntityHandle.mk

def SpawnKind.ofWord? : String → Option SpawnKind
  | "creature" => some .creature
  | "game_object" => some .gameObject
  | _ => none

/-- The word for a kind, alone or as a member with nothing as its value. -/
def SpawnKind.ofMark? (isNothing : Json → Bool) (value : Json) : Option SpawnKind :=
  match value with
  | .text word => word.bind ofWord?
  | value =>
    match value.choice? with
    | some (word, body) => if isNothing body then ofWord? word else none
    | none => none

def SpawnKind.ofJson? (value : Json) : Option SpawnKind := ofMark? isNull value

/-- The kind in a value that was kept for a second pass. -/
def SpawnKind.ofKept? (value : Json) : Option SpawnKind := ofMark? isNothing value

def Rotation.ofJson? : Json → Option Rotation
  | .list [x, y, z, w] => do return ⟨← x.single?, ← y.single?, ← z.single?, ← w.single?⟩
  | _ => none

def Position.ofJson? (value : Json) : Option Position := do
  let f ← value.fields? ["x", "y", "z", "orientation"]
  let x ← f.orElse "x" single? .zero
  let y ← f.orElse "y" single? .zero
  let z ← f.orElse "z" single? .zero
  let orientation ← f.orElse "orientation" single? .zero
  return ⟨x, y, z, orientation⟩

namespace CreatureDefaults

def fieldNames : List String :=
  ["model_id", "equipment_id", "current_waypoint", "cur_health", "cur_mana", "npc_flag",
    "unit_flags", "dynamic_flags"]

def ofFields? (f : Fields) : Option CreatureDefaults := do
  let modelId ← f.orElse "model_id" uint32? 0
  let equipmentId ← f.orElse "equipment_id" uint8? 0
  let currentWaypoint ← f.orElse "current_waypoint" uint32? 0
  let curHealth ← f.orElse "cur_health" uint32? 0
  let curMana ← f.orElse "cur_mana" uint32? 0
  let npcFlag ← f.orElse "npc_flag" uint32? 0
  let unitFlags ← f.orElse "unit_flags" uint32? 0
  let dynamicFlags ← f.orElse "dynamic_flags" uint32? 0
  return ⟨modelId, equipmentId, currentWaypoint, curHealth, curMana, npcFlag, unitFlags,
    dynamicFlags⟩

def ofJson? (value : Json) : Option CreatureDefaults := (value.fields? fieldNames).bind ofFields?

end CreatureDefaults

namespace GameObjectDefaults

def fieldNames : List String := ["anim_progress", "state"]

def ofFields? (f : Fields) : Option GameObjectDefaults := do
  let animProgress ← f.orElse "anim_progress" uint8? 0
  let state ← f.orElse "state" uint8? 0
  return ⟨animProgress, state⟩

def ofJson? (value : Json) : Option GameObjectDefaults :=
  (value.fields? fieldNames).bind ofFields?

end GameObjectDefaults

namespace CreaturePatch

def fieldNames : List String :=
  ["spawn_time_min", "spawn_time_max", "ai_name", "script_name", "model_id", "equipment_id",
    "current_waypoint", "cur_health", "cur_mana", "npc_flag", "unit_flags", "dynamic_flags",
    "movement_type", "spawn_dist", "corpse_time_looted", "corpse_time_unlooted", "phase_mask",
    "spawn_mask"]

def ofFields? (f : Fields) : Option CreaturePatch := do
  let spawnTimeMin ← f.orElse "spawn_time_min" uint32? 0
  let spawnTimeMax ← f.orElse "spawn_time_max" uint32? 0
  let aiName ← f.orElse "ai_name" string? ""
  let scriptName ← f.orElse "script_name" string? ""
  let modelId ← f.orElse "model_id" uint32? 0
  let equipmentId ← f.orElse "equipment_id" uint8? 0
  let currentWaypoint ← f.orElse "current_waypoint" uint32? 0
  let curHealth ← f.orElse "cur_health" uint32? 0
  let curMana ← f.orElse "cur_mana" uint32? 0
  let npcFlag ← f.orElse "npc_flag" uint32? 0
  let unitFlags ← f.orElse "unit_flags" uint32? 0
  let dynamicFlags ← f.orElse "dynamic_flags" uint32? 0
  let movementType ← f.orElse "movement_type" uint8? 0
  let spawnDist ← f.orElse "spawn_dist" single? .zero
  let corpseTimeLooted ← f.orElse "corpse_time_looted" uint32? 0
  let corpseTimeUnlooted ← f.orElse "corpse_time_unlooted" uint32? 0
  let phaseMask ← f.orElse "phase_mask" uint32? 0
  let spawnMask ← f.orElse "spawn_mask" uint8? 0
  return ⟨spawnTimeMin, spawnTimeMax, aiName, scriptName, modelId, equipmentId, currentWaypoint,
    curHealth, curMana, npcFlag, unitFlags, dynamicFlags, movementType, spawnDist,
    corpseTimeLooted, corpseTimeUnlooted, phaseMask, spawnMask⟩

def ofJson? (value : Json) : Option CreaturePatch := (value.fields? fieldNames).bind ofFields?

end CreaturePatch

namespace GameObjectPatch

def fieldNames : List String :=
  ["spawn_time_min", "spawn_time_max", "ai_name", "script_name", "anim_progress", "state",
    "rotation", "phase_mask", "spawn_mask"]

def ofFields? (f : Fields) : Option GameObjectPatch := do
  let spawnTimeMin ← f.orElse "spawn_time_min" uint32? 0
  let spawnTimeMax ← f.orElse "spawn_time_max" uint32? 0
  let aiName ← f.orElse "ai_name" string? ""
  let scriptName ← f.orElse "script_name" string? ""
  let animProgress ← f.orElse "anim_progress" uint8? 0
  let state ← f.orElse "state" uint8? 0
  let rotation ← f.orElse "rotation" (nullOr? Rotation.ofJson?) none
  let phaseMask ← f.orElse "phase_mask" uint32? 0
  let spawnMask ← f.orElse "spawn_mask" uint8? 0
  return ⟨spawnTimeMin, spawnTimeMax, aiName, scriptName, animProgress, state, rotation,
    phaseMask, spawnMask⟩

def ofJson? (value : Json) : Option GameObjectPatch := (value.fields? fieldNames).bind ofFields?

end GameObjectPatch

def Patch.ofJson? (value : Json) : Option Patch :=
  match value.choice? with
  | some ("creature", patch) => (CreaturePatch.ofJson? patch).map .creature
  | some ("game_object", patch) => (GameObjectPatch.ofJson? patch).map .gameObject
  | _ => none

/-! ## Rows -/

def TemplateRow.ofJson? (value : Json) : Option TemplateRow := do
  let f ← value.fields? ["pool_id", "type_code", "phase_mask", "spawn_mask", "min_limit",
    "max_limit", "movement_type", "spawn_dist", "spawn_time_min", "spawn_time_max",
    "spawn_time_fast", "corpse_time_looted", "corpse_time_unlooted", "description", "flags"]
  let pool ← f.orElse "pool_id" Id.ofJson? ⟨0⟩
  let typeCode ← f.orElse "type_code" uint8? 0
  let phaseMask ← f.orElse "phase_mask" uint32? 0
  let spawnMask ← f.orElse "spawn_mask" uint8? 0
  let minLimit ← f.orElse "min_limit" uint32? 0
  let maxLimit ← f.orElse "max_limit" uint32? 0
  let movementType ← f.orElse "movement_type" uint8? 0
  let spawnDist ← f.orElse "spawn_dist" single? .zero
  let spawnTimeMin ← f.orElse "spawn_time_min" uint32? 0
  let spawnTimeMax ← f.orElse "spawn_time_max" uint32? 0
  let spawnTimeFast ← f.orElse "spawn_time_fast" uint32? 0
  let corpseTimeLooted ← f.orElse "corpse_time_looted" uint32? 0
  let corpseTimeUnlooted ← f.orElse "corpse_time_unlooted" uint32? 0
  let description ← f.orElse "description" string? ""
  let flags ← f.orElse "flags" uint32? 0
  return ⟨pool, typeCode, phaseMask, spawnMask, minLimit, maxLimit, movementType, spawnDist,
    spawnTimeMin, spawnTimeMax, spawnTimeFast, corpseTimeLooted, corpseTimeUnlooted, description,
    flags⟩

def EdgeRow.ofJson? (value : Json) : Option EdgeRow := do
  let f ← value.fields? ["pool_id", "child_pool_id", "chance"]
  let pool ← f.required "pool_id" Id.ofJson?
  let child ← f.required "child_pool_id" Id.ofJson?
  let chance ← f.orElse "chance" single? .zero
  return ⟨pool, child, chance⟩

def PointRow.ofJson? (value : Json) : Option PointRow := do
  let f ← value.fields? ["point_id", "position", "rotation"]
  let point ← f.required "point_id" Id.ofJson?
  let position ← f.required "position" Position.ofJson?
  let rotation ← f.orElse "rotation" (nullOr? Rotation.ofJson?) none
  return ⟨point, position, rotation⟩

def AssignmentRow.ofJson? (value : Json) : Option AssignmentRow := do
  let f ← value.fields? ["pool_id", "point_id"]
  let pool ← f.required "pool_id" Id.ofJson?
  let point ← f.required "point_id" Id.ofJson?
  return ⟨pool, point⟩

def CreatureRow.ofJson? (value : Json) : Option CreatureRow := do
  let f ← value.rowFields? ["pool_id", "entry", "chance"] CreatureDefaults.fieldNames
  let pool ← f.required "pool_id" Id.ofJson?
  let entry ← f.required "entry" uint32?
  let chance ← f.orElse "chance" single? .zero
  let defaults ← CreatureDefaults.ofFields? f
  return ⟨pool, entry, chance, defaults⟩

def GameObjectRow.ofJson? (value : Json) : Option GameObjectRow := do
  let f ← value.rowFields? ["pool_id", "entry", "chance"] GameObjectDefaults.fieldNames
  let pool ← f.required "pool_id" Id.ofJson?
  let entry ← f.required "entry" uint32?
  let chance ← f.orElse "chance" single? .zero
  let defaults ← GameObjectDefaults.ofFields? f
  return ⟨pool, entry, chance, defaults⟩

def PatchScope.ofJson? (value : Json) : Option PatchScope := do
  let (mark, rest) ← value.tagged? "kind"
  match mark with
  | "point_entry" =>
    let f ← rest.fields? ["point_id", "entry"]
    let point ← f.required "point_id" Id.ofJson?
    let entry ← f.required "entry" uint32?
    return .pair point entry
  | "item" =>
    let f ← rest.fields? ["pool_id", "entry"]
    let pool ← f.required "pool_id" Id.ofJson?
    let entry ← f.required "entry" uint32?
    return .candidate pool entry
  | "point" =>
    let f ← rest.fields? ["point_id"]
    let point ← f.required "point_id" Id.ofJson?
    return .point point
  | _ => none

def CreaturePatchRow.ofJson? (value : Json) : Option CreaturePatchRow := do
  let f ← value.rowFields? ["scope"] CreaturePatch.fieldNames
  let scope ← f.required "scope" PatchScope.ofJson?
  let patch ← CreaturePatch.ofFields? f
  return ⟨scope, patch⟩

def GameObjectPatchRow.ofJson? (value : Json) : Option GameObjectPatchRow := do
  let f ← value.rowFields? ["scope"] GameObjectPatch.fieldNames
  let scope ← f.required "scope" PatchScope.ofJson?
  let patch ← GameObjectPatch.ofFields? f
  return ⟨scope, patch⟩

def PoolRows.ofJson? (value : Json) : Option PoolRows := do
  let f ← value.fields? ["templates", "hierarchy", "spawn_points", "pool_spawns", "creatures",
    "game_objects", "creature_overrides", "game_object_overrides"]
  let templates ← f.orElse "templates" (listOf? TemplateRow.ofJson?) []
  let edges ← f.orElse "hierarchy" (listOf? EdgeRow.ofJson?) []
  let points ← f.orElse "spawn_points" (listOf? PointRow.ofJson?) []
  let assignments ← f.orElse "pool_spawns" (listOf? AssignmentRow.ofJson?) []
  let creatures ← f.orElse "creatures" (listOf? CreatureRow.ofJson?) []
  let gameObjects ← f.orElse "game_objects" (listOf? GameObjectRow.ofJson?) []
  let creaturePatches ← f.orElse "creature_overrides" (listOf? CreaturePatchRow.ofJson?) []
  let gameObjectPatches ←
    f.orElse "game_object_overrides" (listOf? GameObjectPatchRow.ofJson?) []
  return ⟨templates, edges, points, assignments, creatures, gameObjects, creaturePatches,
    gameObjectPatches⟩

/-! ## Settings and worlds -/

def RegistryConfig.ofJson? (value : Json) : Option RegistryConfig := do
  let f ← value.fields? ["seed", "zone_recheck_interval", "default_respawn_secs"]
  let seed ← f.orElse "seed" uint64? (default : RegistryConfig).seed
  let recheckSecs ← f.orElse "zone_recheck_interval" uint64? (default : RegistryConfig).recheckSecs
  let defaultRespawnSecs ←
    f.orElse "default_respawn_secs" uint32? (default : RegistryConfig).defaultRespawnSecs
  return ⟨seed, recheckSecs, defaultRespawnSecs⟩

def InstanceConfig.ofJson? (value : Json) : Option InstanceConfig := do
  let f ← value.fields? ["instance_id", "tick_secs", "spawn_on_load", "registry"]
  let instanceId ← f.orElse "instance_id" uint32? (default : InstanceConfig).instanceId
  let tickSecs ← f.orElse "tick_secs" uint64? (default : InstanceConfig).tickSecs
  let spawnOnLoad ← f.orElse "spawn_on_load" bool? (default : InstanceConfig).spawnOnLoad
  let registry ← f.orElse "registry" RegistryConfig.ofJson? default
  return ⟨instanceId, tickSecs, spawnOnLoad, registry⟩

def MapPlan.ofJson? (value : Json) : Option MapPlan := do
  let f ← value.fields? ["map_id", "config", "pools"]
  let map ← f.orElse "map_id" Id.ofJson? ⟨0⟩
  let config ← f.orElse "config" InstanceConfig.ofJson? default
  let rows ← f.orElse "pools" PoolRows.ofJson? default
  return ⟨map, config, rows⟩

def WorldPlan.ofJson? (value : Json) : Option WorldPlan := do
  let f ← value.fields? ["maps"]
  let maps ← f.orElse "maps" (listOf? MapPlan.ofJson?) []
  return ⟨maps⟩

def WorldPlan.ofText? (document : String) : Option WorldPlan :=
  (Json.ofText? document).bind WorldPlan.ofJson?

end SpawnForest
