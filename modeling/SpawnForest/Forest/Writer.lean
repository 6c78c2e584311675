import SpawnForest.Forest.Pool
import SpawnForest.Plan.Writer

/-!
# Writing pools and points

Single pools and points as they stand in a running map, and the attributes of
an entity.
-/

namespace SpawnForest

open Json (ofUInt8 ofUInt32 ofString)

/-! ## Pools -/

def SpawnTimes.toJson (t : SpawnTimes) : Json :=
  .record [("min_secs", ofUInt32 t.minSecs), ("max_secs", ofUInt32 t.maxSecs),
    ("fast_secs", ofUInt32 t.fastSecs)]

def CorpseTimes.toJson (t : CorpseTimes) : Json :=
  .record [("looted_secs", ofUInt32 t.lootedSecs), ("unlooted_secs", ofUInt32 t.unlootedSecs)]

def Template.toJson (t : Template) : Json :=
  .record [("map_id", t.map.toJson), ("pool_id", t.pool.toJson), ("kind", t.kind.toJson),
    ("phase_mask", ofUInt32 t.phaseMask), ("spawn_mask", ofUInt8 t.spawnMask),
    ("min_limit", ofUInt32 t.minLimit), ("max_limit", ofUInt32 t.maxLimit),
    ("movement_type", ofUInt8 t.movementType), ("spawn_dist", t.spawnDist.toJson),
    ("spawn_times", t.spawnTimes.toJson), ("corpse_times", t.corpseTimes.toJson),
    ("description", ofString t.description), ("flags", t.flags.toJson)]

def CandidateData.toJson : CandidateData → Json
  | creature defaults patch =>
    SpawnKind.creature.mark (.record [("defaults", defaults.toJson),
      ("override_data", .ofOption CreaturePatch.toJson patch)])
  | gameObject defaults patch =>
    SpawnKind.gameObject.mark (.record [("defaults", defaults.toJson),
      ("override_data", .ofOption GameObjectPatch.toJson patch)])

def Candidate.toJson (c : Candidate) : Json :=
  .record [("pool_id", c.pool.toJson), ("entry", ofUInt32 c.entry), ("chance", c.chance.toJson),
    ("data", c.data.toJson)]

def Pool.toJson (p : Pool) : Json :=
  .record [("template", p.template.toJson), ("parent", .ofOption Id.toJson p.parent),
    ("root", p.root.toJson), ("children", .ofList Id.toJson p.children),
    ("chance", p.chance.toJson), ("spawns_this_pool", .ofNat p.ownCount),
    ("spawns_aggregate", .ofNat p.totalCount), ("active", .bool p.active),
    ("inherits_limits", .bool p.inheritsLimits), ("spawn_points", .ofList Id.toJson p.points),
    ("items", .ofList Candidate.toJson p.candidates)]

/-! ## Points -/

def Reservation.toJson (r : Reservation) : Json :=
  .record [("pool_id", r.pool.toJson), ("entry", ofUInt32 r.entry), ("kind", r.kind.toJson)]

def Remains.toJson (r : Remains) : Json :=
  .record [("handle", r.handle.toJson), ("pool_id", r.pool.toJson),
    ("expires_at", r.expires.toJson)]

def SpawnPoint.toJson (p : SpawnPoint) : Json :=
  .record [("id", p.id.toJson), ("map_id", p.map.toJson), ("position", p.position.toJson),
    ("rotation", .ofOption Rotation.toJson p.rotation), ("grid_id", p.grid.toJson),
    ("zone_id", p.zone.toJson),
    ("creature_override", .ofOption CreaturePatch.toJson p.creaturePatch),
    ("game_object_override", .ofOption GameObjectPatch.toJson p.gameObjectPatch),
    ("current_item", .ofOption Reservation.toJson p.reservation),
    ("current_object", .ofOption EntityHandle.toJson p.entity),
    ("old_objects", .ofList Remains.toJson p.remains)]

/-! ## Attributes -/

def CreatureAttributes.toJson (a : CreatureAttributes) : Json :=
  .record [("model_id", ofUInt32 a.modelId), ("equipment_id", ofUInt8 a.equipmentId),
    ("current_waypoint", ofUInt32 a.currentWaypoint), ("cur_health", ofUInt32 a.curHealth),
    ("cur_mana", ofUInt32 a.curMana), ("npc_flag", ofUInt32 a.npcFlag),
    ("unit_flags", ofUInt32 a.unitFlags), ("dynamic_flags", ofUInt32 a.dynamicFlags),
    ("movement_type", ofUInt8 a.movementType), ("spawn_dist", a.spawnDist.toJson),
    ("phase_mask", ofUInt32 a.phaseMask), ("spawn_mask", ofUInt8 a.spawnMask),
    ("ai_name", ofString a.aiName), ("script_name", ofString a.scriptName),
    ("spawn_time_min", ofUInt32 a.spawnTimeMin), ("spawn_time_max", ofUInt32 a.spawnTimeMax),
    ("corpse_time_looted", ofUInt32 a.corpseTimeLooted),
    ("corpse_time_unlooted", ofUInt32 a.corpseTimeUnlooted)]

def GameObjectAttributes.toJson (a : GameObjectAttributes) : Json :=
  .record [("anim_progress", ofUInt8 a.animProgress), ("state", ofUInt8 a.state),
    ("rotation", a.rotation.toJson), ("phase_mask", ofUInt32 a.phaseMask),
    ("spawn_mask", ofUInt8 a.spawnMask), ("ai_name", ofString a.aiName),
    ("script_name", ofString a.scriptName), ("spawn_time_min", ofUInt32 a.spawnTimeMin),
    ("spawn_time_max", ofUInt32 a.spawnTimeMax),
    ("corpse_time_looted", ofUInt32 a.corpseTimeLooted),
    ("corpse_time_unlooted", ofUInt32 a.corpseTimeUnlooted)]

def Attributes.toJson (a : Attributes) : Json :=
  a.kind.mark (match a with
    | .creature c => c.toJson
    | .gameObject g => g.toJson)

end SpawnForest
