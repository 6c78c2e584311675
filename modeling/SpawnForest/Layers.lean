import SpawnForest.Candidate
import SpawnForest.SpawnPoint
import SpawnForest.Table

/-!
# Layers of patches

An attribute is settled field by field from up to three patches and a base,
the first one that sets the field winning:

1. the patch for exactly this entry at this point,
2. the patch of the candidate,
3. the patch of the point,
4. the base: the candidate's defaults, the pool's template for timing, masks
   and movement, and the point's rotation.

The three patches are collected into a list first, so a missing layer and an
empty patch come to the same.
-/

namespace SpawnForest

/-- Values that can say "not set". -/
class Unset (α : Type) where
  isUnset : α → Bool

instance : Unset UInt8 := ⟨fun n => n == 0⟩
instance : Unset UInt32 := ⟨fun n => n == 0⟩
instance : Unset Single := ⟨Single.isZero⟩
instance : Unset String := ⟨String.isEmpty⟩
instance {α : Type} : Unset (Option α) := ⟨Option.isNone⟩

def firstSet {α : Type} [Unset α] (layers : List α) (base : α) : α :=
  (layers.find? (fun a => !Unset.isUnset a)).getD base

/-- The attributes of a creature under a stack of patches, highest first. -/
def CreaturePatch.resolve (layers : List CreaturePatch) (defaults : CreatureDefaults)
    (template : Template) : CreatureAttributes where
  modelId := firstSet (layers.map (·.modelId)) defaults.modelId
  equipmentId := firstSet (layers.map (·.equipmentId)) defaults.equipmentId
  currentWaypoint := firstSet (layers.map (·.currentWaypoint)) defaults.currentWaypoint
  curHealth := firstSet (layers.map (·.curHealth)) defaults.curHealth
  curMana := firstSet (layers.map (·.curMana)) defaults.curMana
  npcFlag := firstSet (layers.map (·.npcFlag)) defaults.npcFlag
  unitFlags := firstSet (layers.map (·.unitFlags)) defaults.unitFlags
  dynamicFlags := firstSet (layers.map (·.dynamicFlags)) defaults.dynamicFlags
  movementType := firstSet (layers.map (·.movementType)) template.movementType
  spawnDist := firstSet (layers.map (·.spawnDist)) template.spawnDist
  phaseMask := firstSet (layers.map (·.phaseMask)) template.phaseMask
  spawnMask := firstSet (layers.map (·.spawnMask)) template.spawnMask
  aiName := firstSet (layers.map (·.aiName)) ""
  scriptName := firstSet (layers.map (·.scriptName)) ""
  spawnTimeMin := firstSet (layers.map (·.spawnTimeMin)) template.spawnTimes.minSecs
  spawnTimeMax := firstSet (layers.map (·.spawnTimeMax)) template.spawnTimes.maxSecs
  corpseTimeLooted := firstSet (layers.map (·.corpseTimeLooted)) template.corpseTimes.lootedSecs
  corpseTimeUnlooted :=
    firstSet (layers.map (·.corpseTimeUnlooted)) template.corpseTimes.unlootedSecs

/-- The attributes of a game object under a stack of patches, highest first.
Patches of game objects say nothing about corpses. -/
def GameObjectPatch.resolve (layers : List GameObjectPatch) (defaults : GameObjectDefaults)
    (rotation : Option Rotation) (template : Template) : GameObjectAttributes where
  animProgress := firstSet (layers.map (·.animProgress)) defaults.animProgress
  state := firstSet (layers.map (·.state)) defaults.state
  rotation := (firstSet (layers.map (·.rotation)) rotation).getD .identity
  phaseMask := firstSet (layers.map (·.phaseMask)) template.phaseMask
  spawnMask := firstSet (layers.map (·.spawnMask)) template.spawnMask
  aiName := firstSet (layers.map (·.aiName)) ""
  scriptName := firstSet (layers.map (·.scriptName)) ""
  spawnTimeMin := firstSet (layers.map (·.spawnTimeMin)) template.spawnTimes.minSecs
  spawnTimeMax := firstSet (layers.map (·.spawnTimeMax)) template.spawnTimes.maxSecs
  corpseTimeLooted := template.corpseTimes.lootedSecs
  corpseTimeUnlooted := template.corpseTimes.unlootedSecs

structure PairPatches where
  creatures : Table (PointId × UInt32) CreaturePatch
  gameObjects : Table (PointId × UInt32) GameObjectPatch

namespace PairPatches

def empty : PairPatches := ⟨.empty, .empty⟩

/-- Sets the patch of a pair for the kind of the patch, over any it had. -/
def insert (s : PairPatches) (point : PointId) (entry : UInt32) : Patch → PairPatches
  | .creature p => { s with creatures := s.creatures.insert (point, entry) p }
  | .gameObject p => { s with gameObjects := s.gameObjects.insert (point, entry) p }

def size (s : PairPatches) : Nat := s.creatures.size + s.gameObjects.size

def isEmpty (s : PairPatches) : Bool := s.size == 0

/-- The attributes of a candidate spawned at a point, under a template that has
inherited what it lacks. -/
def resolve (s : PairPatches) (point : SpawnPoint) (candidate : Candidate) (template : Template) :
    Attributes :=
  match candidate.data with
  | .creature defaults patch =>
    let pair := s.creatures.get? (point.id, candidate.entry)
    .creature (CreaturePatch.resolve ([pair, patch, point.creaturePatch].filterMap id)
      defaults template)
  | .gameObject defaults patch =>
    let pair := s.gameObjects.get? (point.id, candidate.entry)
    .gameObject (GameObjectPatch.resolve ([pair, patch, point.gameObjectPatch].filterMap id)
      defaults point.rotation template)

end PairPatches

end SpawnForest
