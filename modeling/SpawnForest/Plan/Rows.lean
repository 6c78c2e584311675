import SpawnForest.Candidate
import SpawnForest.SpawnPoint

/-!
# The rows that describe a map

A map is described by flat rows: templates, edges, points, assignments of
points to pools, candidates and patches. Rows refer to each other by number
and may be wrong; `SpawnForest.Registry.Load` says which of them count.
-/

namespace SpawnForest

structure TemplateRow where
  pool : PoolId
  typeCode : UInt8
  phaseMask : UInt32
  spawnMask : UInt8
  minLimit : UInt32
  maxLimit : UInt32
  movementType : UInt8
  spawnDist : Single
  spawnTimeMin : UInt32
  spawnTimeMax : UInt32
  spawnTimeFast : UInt32
  corpseTimeLooted : UInt32
  corpseTimeUnlooted : UInt32
  description : String
  flags : UInt32
deriving DecidableEq

instance : Inhabited TemplateRow := ⟨⟨⟨0⟩, 0, 0, 0, 0, 0, 0, .zero, 0, 0, 0, 0, 0, "", 0⟩⟩

/-- The template of a row; none if the type code is unknown. Flags without a
meaning are dropped. -/
def TemplateRow.template? (row : TemplateRow) (map : MapId) : Option Template :=
  (SpawnKind.ofCode? row.typeCode).map fun kind =>
    { map := map
      pool := row.pool
      kind := kind
      phaseMask := row.phaseMask
      spawnMask := row.spawnMask
      minLimit := row.minLimit
      maxLimit := row.maxLimit
      movementType := row.movementType
      spawnDist := row.spawnDist
      spawnTimes := ⟨row.spawnTimeMin, row.spawnTimeMax, row.spawnTimeFast⟩
      corpseTimes := ⟨row.corpseTimeLooted, row.corpseTimeUnlooted⟩
      description := row.description
      flags := PoolFlags.known ⟨row.flags⟩ }

/-- A pool, a child of it, and the child's weight. -/
structure EdgeRow where
  pool : PoolId
  child : PoolId
  chance : Single
deriving DecidableEq

structure PointRow where
  point : PointId
  position : Position
  rotation : Option Rotation
deriving DecidableEq

structure AssignmentRow where
  pool : PoolId
  point : PointId
deriving DecidableEq

structure CreatureRow where
  pool : PoolId
  entry : UInt32
  chance : Single
  defaults : CreatureDefaults
deriving DecidableEq

def CreatureRow.candidate (row : CreatureRow) : Candidate :=
  .ofCreature row.pool row.entry row.chance row.defaults

structure GameObjectRow where
  pool : PoolId
  entry : UInt32
  chance : Single
  defaults : GameObjectDefaults
deriving DecidableEq

def GameObjectRow.candidate (row : GameObjectRow) : Candidate :=
  .ofGameObject row.pool row.entry row.chance row.defaults

inductive PatchScope where
  /-- One entry at one point. -/
  | pair (point : PointId) (entry : UInt32)
  /-- A candidate, wherever it spawns. -/
  | candidate (pool : PoolId) (entry : UInt32)
  /-- Anything spawned at a point. -/
  | point (point : PointId)
deriving DecidableEq

structure CreaturePatchRow where
  scope : PatchScope
  patch : CreaturePatch
deriving DecidableEq

structure GameObjectPatchRow where
  scope : PatchScope
  patch : GameObjectPatch
deriving DecidableEq

structure PoolRows where
  templates : List TemplateRow
  edges : List EdgeRow
  points : List PointRow
  assignments : List AssignmentRow
  creatures : List CreatureRow
  gameObjects : List GameObjectRow
  creaturePatches : List CreaturePatchRow
  gameObjectPatches : List GameObjectPatchRow
deriving DecidableEq

instance : Inhabited PoolRows := ⟨⟨[], [], [], [], [], [], [], []⟩⟩

def PoolRows.total (rows : PoolRows) : Nat :=
  rows.templates.length + rows.edges.length + rows.points.length + rows.assignments.length
    + rows.creatures.length + rows.gameObjects.length + rows.creaturePatches.length
    + rows.gameObjectPatches.length

/-! ## Settings and worlds -/

structure RegistryConfig where
  seed : UInt64
  /-- The least time between two scans of one zone or grid. -/
  recheckSecs : UInt64
  /-- The respawn delay where nothing else gives one. -/
  defaultRespawnSecs : UInt32
deriving DecidableEq

instance : Inhabited RegistryConfig := ⟨⟨0, 10, 300⟩⟩

structure InstanceConfig where
  /-- Tells copies of one map apart. -/
  instanceId : UInt32
  /-- Game time per tick. -/
  tickSecs : UInt64
  /-- Whether every root is populated on loading. -/
  spawnOnLoad : Bool
  registry : RegistryConfig
deriving DecidableEq

instance : Inhabited InstanceConfig := ⟨⟨0, 1, true, default⟩⟩

structure MapPlan where
  map : MapId
  config : InstanceConfig
  rows : PoolRows
deriving DecidableEq

instance : Inhabited MapPlan := ⟨⟨⟨0⟩, default, default⟩⟩

structure WorldPlan where
  maps : List MapPlan
deriving DecidableEq

instance : Inhabited WorldPlan := ⟨⟨[]⟩⟩

def WorldPlan.map? (world : WorldPlan) (map : MapId) : Option MapPlan :=
  world.maps.find? (fun plan => plan.map == map)

end SpawnForest
