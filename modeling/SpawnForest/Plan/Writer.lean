import SpawnForest.Json.Number
import SpawnForest.Plan.Rows

/-!
# Writing worlds

The documents that `SpawnForest.Plan.Reader` reads, with every field spelled
out. Records whose fields are spread among those of a row give them as
`members`.
-/

namespace SpawnForest

open Json (ofUInt8 ofUInt32 ofString)

/-! ## Parts -/

def Id.toJson {realm : Realm} (id : Id realm) : Json := ofUInt32 id.number

def Timestamp.toJson (t : Timestamp) : Json := .ofNat t.toNat

def EntityHandle.toJson (h : EntityHandle) : Json := .ofNat h.serial

def SpawnKind.toJson (kind : SpawnKind) : Json := ofString kind.word

def PoolFlags.toJson (flags : PoolFlags) : Json := ofUInt32 flags.bits

def SpawnKind.mark (kind : SpawnKind) (value : Json) : Json := .record [(kind.word, value)]

def Rotation.toJson (r : Rotation) : Json :=
  .list [r.x.toJson, r.y.toJson, r.z.toJson, r.w.toJson]

def Position.toJson (p : Position) : Json :=
  .record [("x", p.x.toJson), ("y", p.y.toJson), ("z", p.z.toJson),
    ("orientation", p.orientation.toJson)]

/-! ## Defaults and patches -/

def CreatureDefaults.members (d : CreatureDefaults) : List (String × Json) :=
  [("model_id", ofUInt32 d.modelId), ("equipment_id", ofUInt8 d.equipmentId),
    ("current_waypoint", ofUInt32 d.currentWaypoint), ("cur_health", ofUInt32 d.curHealth),
    ("cur_mana", ofUInt32 d.curMana), ("npc_flag", ofUInt32 d.npcFlag),
    ("unit_flags", ofUInt32 d.unitFlags), ("dynamic_flags", ofUInt32 d.dynamicFlags)]

def CreatureDefaults.toJson (d : CreatureDefaults) : Json := .record d.members

def GameObjectDefaults.members (d : GameObjectDefaults) : List (String × Json) :=
  [("anim_progress", ofUInt8 d.animProgress), ("state", ofUInt8 d.state)]

def GameObjectDefaults.toJson (d : GameObjectDefaults) : Json := .record d.members

def CreaturePatch.members (p : CreaturePatch) : List (String × Json) :=
  [("spawn_time_min", ofUInt32 p.spawnTimeMin), ("spawn_time_max", ofUInt32 p.spawnTimeMax),
    ("ai_name", ofString p.aiName), ("script_name", ofString p.scriptName),
    ("model_id", ofUInt32 p.modelId), ("equipment_id", ofUInt8 p.equipmentId),
    ("current_waypoint", ofUInt32 p.currentWaypoint), ("cur_health", ofUInt32 p.curHealth),
    ("cur_mana", ofUInt32 p.curMana), ("npc_flag", ofUInt32 p.npcFlag),
    ("unit_flags", ofUInt32 p.unitFlags), ("dynamic_flags", ofUInt32 p.dynamicFlags),
    ("movement_type", ofUInt8 p.movementType), ("spawn_dist", p.spawnDist.toJson),
    ("corpse_time_looted", ofUInt32 p.corpseTimeLooted),
    ("corpse_time_unlooted", ofUInt32 p.corpseTimeUnlooted), ("phase_mask", ofUInt32 p.phaseMask),
    ("spawn_mask", ofUInt8 p.spawnMask)]

def CreaturePatch.toJson (p : CreaturePatch) : Json := .record p.members

def GameObjectPatch.members (p : GameObjectPatch) : List (String × Json) :=
  [("spawn_time_min", ofUInt32 p.spawnTimeMin), ("spawn_time_max", ofUInt32 p.spawnTimeMax),
    ("ai_name", ofString p.aiName), ("script_name", ofString p.scriptName),
    ("anim_progress", ofUInt8 p.animProgress), ("state", ofUInt8 p.state),
    ("rotation", .ofOption Rotation.toJson p.rotation), ("phase_mask", ofUInt32 p.phaseMask),
    ("spawn_mask", ofUInt8 p.spawnMask)]

def GameObjectPatch.toJson (p : GameObjectPatch) : Json := .record p.members

def Patch.toJson (p : Patch) : Json :=
  p.kind.mark (match p with
    | .creature patch => patch.toJson
    | .gameObject patch => patch.toJson)

/-! ## Rows -/

def TemplateRow.toJson (t : TemplateRow) : Json :=
  .record [("pool_id", t.pool.toJson), ("type_code", ofUInt8 t.typeCode),
    ("phase_mask", ofUInt32 t.phaseMask), ("spawn_mask", ofUInt8 t.spawnMask),
    ("min_limit", ofUInt32 t.minLimit), ("max_limit", ofUInt32 t.maxLimit),
    ("movement_type", ofUInt8 t.movementType), ("spawn_dist", t.spawnDist.toJson),
    ("spawn_time_min", ofUInt32 t.spawnTimeMin), ("spawn_time_max", ofUInt32 t.spawnTimeMax),
    ("spawn_time_fast", ofUInt32 t.spawnTimeFast),
    ("corpse_time_looted", ofUInt32 t.corpseTimeLooted),
    ("corpse_time_unlooted", ofUInt32 t.corpseTimeUnlooted),
    ("description", ofString t.description), ("flags", ofUInt32 t.flags)]

def EdgeRow.toJson (e : EdgeRow) : Json :=
  .record [("pool_id", e.pool.toJson), ("child_pool_id", e.child.toJson),
    ("chance", e.chance.toJson)]

def PointRow.toJson (p : PointRow) : Json :=
  .record [("point_id", p.point.toJson), ("position", p.position.toJson),
    ("rotation", .ofOption Rotation.toJson p.rotation)]

def AssignmentRow.toJson (a : AssignmentRow) : Json :=
  .record [("pool_id", a.pool.toJson), ("point_id", a.point.toJson)]

def CreatureRow.toJson (c : CreatureRow) : Json :=
  .record ([("pool_id", c.pool.toJson), ("entry", ofUInt32 c.entry), ("chance", c.chance.toJson)]
    ++ c.defaults.members)

def GameObjectRow.toJson (c : GameObjectRow) : Json :=
  .record ([("pool_id", c.pool.toJson), ("entry", ofUInt32 c.entry), ("chance", c.chance.toJson)]
    ++ c.defaults.members)

def PatchScope.toJson : PatchScope → Json
  | .pair p entry =>
    .record [("kind", ofString "point_entry"), ("point_id", p.toJson), ("entry", ofUInt32 entry)]
  | .candidate p entry =>
    .record [("kind", ofString "item"), ("pool_id", p.toJson), ("entry", ofUInt32 entry)]
  | .point p => .record [("kind", ofString "point"), ("point_id", p.toJson)]

def CreaturePatchRow.toJson (row : CreaturePatchRow) : Json :=
  .record (("scope", row.scope.toJson) :: row.patch.members)

def GameObjectPatchRow.toJson (row : GameObjectPatchRow) : Json :=
  .record (("scope", row.scope.toJson) :: row.patch.members)

def PoolRows.toJson (rows : PoolRows) : Json :=
  .record [("templates", .ofList TemplateRow.toJson rows.templates),
    ("hierarchy", .ofList EdgeRow.toJson rows.edges),
    ("spawn_points", .ofList PointRow.toJson rows.points),
    ("pool_spawns", .ofList AssignmentRow.toJson rows.assignments),
    ("creatures", .ofList CreatureRow.toJson rows.creatures),
    ("game_objects", .ofList GameObjectRow.toJson rows.gameObjects),
    ("creature_overrides", .ofList CreaturePatchRow.toJson rows.creaturePatches),
    ("game_object_overrides", .ofList GameObjectPatchRow.toJson rows.gameObjectPatches)]

/-! ## Settings and worlds -/

def RegistryConfig.toJson (c : RegistryConfig) : Json :=
  .record [("seed", .ofUInt64 c.seed), ("zone_recheck_interval", .ofUInt64 c.recheckSecs),
    ("default_respawn_secs", ofUInt32 c.defaultRespawnSecs)]

def InstanceConfig.toJson (c : InstanceConfig) : Json :=
  .record [("instance_id", ofUInt32 c.instanceId), ("tick_secs", .ofUInt64 c.tickSecs),
    ("spawn_on_load", .bool c.spawnOnLoad), ("registry", c.registry.toJson)]

def MapPlan.toJson (m : MapPlan) : Json :=
  .record [("map_id", m.map.toJson), ("config", m.config.toJson), ("pools", m.rows.toJson)]

def WorldPlan.toJson (w : WorldPlan) : Json := .record [("maps", .ofList MapPlan.toJson w.maps)]

end SpawnForest
