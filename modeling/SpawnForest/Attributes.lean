import SpawnForest.Template

/-!
# Attributes and patches

A candidate brings defaults of its kind, and patches change them in places.
A patch is sparse: a zero number, an empty text and an absent rotation mean
that the patch leaves the field alone, so no patch can force a field to zero.
The attributes of an entity are what comes out (`SpawnForest.Layers`).
-/

namespace SpawnForest

/-- A rotation as a quaternion. -/
structure Rotation where
  x : Single
  y : Single
  z : Single
  w : Single
deriving DecidableEq

/-- No rotation at all. -/
def Rotation.identity : Rotation := ⟨.zero, .zero, .zero, .one⟩

/-! ## Defaults -/

structure CreatureDefaults where
  modelId : UInt32
  equipmentId : UInt8
  currentWaypoint : UInt32
  curHealth : UInt32
  curMana : UInt32
  npcFlag : UInt32
  unitFlags : UInt32
  dynamicFlags : UInt32
deriving DecidableEq

instance : Inhabited CreatureDefaults := ⟨⟨0, 0, 0, 0, 0, 0, 0, 0⟩⟩

structure GameObjectDefaults where
  animProgress : UInt8
  state : UInt8
deriving DecidableEq

instance : Inhabited GameObjectDefaults := ⟨⟨0, 0⟩⟩

/-! ## Patches -/

structure CreaturePatch where
  spawnTimeMin : UInt32
  spawnTimeMax : UInt32
  aiName : String
  scriptName : String
  modelId : UInt32
  equipmentId : UInt8
  currentWaypoint : UInt32
  curHealth : UInt32
  curMana : UInt32
  npcFlag : UInt32
  unitFlags : UInt32
  dynamicFlags : UInt32
  movementType : UInt8
  spawnDist : Single
  corpseTimeLooted : UInt32
  corpseTimeUnlooted : UInt32
  phaseMask : UInt32
  spawnMask : UInt8
deriving DecidableEq

/-- The patch that leaves every field alone. -/
instance : Inhabited CreaturePatch :=
  ⟨⟨0, 0, "", "", 0, 0, 0, 0, 0, 0, 0, 0, 0, .zero, 0, 0, 0, 0⟩⟩

structure GameObjectPatch where
  spawnTimeMin : UInt32
  spawnTimeMax : UInt32
  aiName : String
  scriptName : String
  animProgress : UInt8
  state : UInt8
  rotation : Option Rotation
  phaseMask : UInt32
  spawnMask : UInt8
deriving DecidableEq

/-- The patch that leaves every field alone. -/
instance : Inhabited GameObjectPatch := ⟨⟨0, 0, "", "", 0, 0, none, 0, 0⟩⟩

inductive Patch where
  | creature (patch : CreaturePatch)
  | gameObject (patch : GameObjectPatch)
deriving DecidableEq

def Patch.kind : Patch → SpawnKind
  | .creature _ => .creature
  | .gameObject _ => .gameObject

/-! ## Resolved attributes -/

structure CreatureAttributes where
  modelId : UInt32
  equipmentId : UInt8
  currentWaypoint : UInt32
  curHealth : UInt32
  curMana : UInt32
  npcFlag : UInt32
  unitFlags : UInt32
  dynamicFlags : UInt32
  movementType : UInt8
  spawnDist : Single
  phaseMask : UInt32
  spawnMask : UInt8
  aiName : String
  scriptName : String
  spawnTimeMin : UInt32
  spawnTimeMax : UInt32
  corpseTimeLooted : UInt32
  corpseTimeUnlooted : UInt32
deriving DecidableEq

structure GameObjectAttributes where
  animProgress : UInt8
  state : UInt8
  rotation : Rotation
  phaseMask : UInt32
  spawnMask : UInt8
  aiName : String
  scriptName : String
  spawnTimeMin : UInt32
  spawnTimeMax : UInt32
  corpseTimeLooted : UInt32
  corpseTimeUnlooted : UInt32
deriving DecidableEq

/-- Everything that an entity is made with. -/
inductive Attributes where
  | creature (attributes : CreatureAttributes)
  | gameObject (attributes : GameObjectAttributes)
deriving DecidableEq

namespace Attributes

def kind : Attributes → SpawnKind
  | creature _ => .creature
  | gameObject _ => .gameObject

/-- The least and greatest respawn delay, in seconds. -/
def spawnTimeRange : Attributes → UInt32 × UInt32
  | creature a => (a.spawnTimeMin, a.spawnTimeMax)
  | gameObject a => (a.spawnTimeMin, a.spawnTimeMax)

/-- How long remains stay. -/
def corpseSecs (looted : Bool) : Attributes → UInt32
  | creature a => if looted then a.corpseTimeLooted else a.corpseTimeUnlooted
  | gameObject a => if looted then a.corpseTimeLooted else a.corpseTimeUnlooted

end Attributes

end SpawnForest
