import SpawnForest.Layers

/-!
# Fields by name

Attributes, patches, defaults and templates are records of their own, and a
field of one feeds the field of the same name of another. `AttributeName` lists
the names, and `value` reads a record by name, as far as it has a field of that
name. So what is said of all fields can be said once. Nothing is lost by this:
patches and attributes are told by their values (`ext_value`).
-/

namespace SpawnForest

/-- What attributes there are, of creatures and of game objects. -/
inductive AttributeName where
  | modelId
  | equipmentId
  | currentWaypoint
  | curHealth
  | curMana
  | npcFlag
  | unitFlags
  | dynamicFlags
  | movementType
  | spawnDist
  | animProgress
  | state
  | rotation
  | phaseMask
  | spawnMask
  | aiName
  | scriptName
  | spawnTimeMin
  | spawnTimeMax
  | corpseTimeLooted
  | corpseTimeUnlooted
deriving DecidableEq

/-- The value of a field, whatever its type. -/
inductive Datum where
  | word (n : UInt32)
  | byte (n : UInt8)
  | single (x : Single)
  | text (s : String)
  | rotation (r : Option Rotation)
deriving DecidableEq

namespace Datum

theorem word_inj {a b : UInt32} (h : some (word a) = some (word b)) : a = b :=
  word.inj (Option.some.inj h)

theorem byte_inj {a b : UInt8} (h : some (byte a) = some (byte b)) : a = b :=
  byte.inj (Option.some.inj h)

theorem single_inj {a b : Single} (h : some (single a) = some (single b)) : a = b :=
  single.inj (Option.some.inj h)

theorem text_inj {a b : String} (h : some (text a) = some (text b)) : a = b :=
  text.inj (Option.some.inj h)

theorem rotation_inj {a b : Option Rotation} (h : some (rotation a) = some (rotation b)) : a = b :=
  rotation.inj (Option.some.inj h)

end Datum

/-! ## Patches -/

def CreaturePatch.value (p : CreaturePatch) : AttributeName → Option Datum
  | .modelId => some (.word p.modelId)
  | .equipmentId => some (.byte p.equipmentId)
  | .currentWaypoint => some (.word p.currentWaypoint)
  | .curHealth => some (.word p.curHealth)
  | .curMana => some (.word p.curMana)
  | .npcFlag => some (.word p.npcFlag)
  | .unitFlags => some (.word p.unitFlags)
  | .dynamicFlags => some (.word p.dynamicFlags)
  | .movementType => some (.byte p.movementType)
  | .spawnDist => some (.single p.spawnDist)
  | .phaseMask => some (.word p.phaseMask)
  | .spawnMask => some (.byte p.spawnMask)
  | .aiName => some (.text p.aiName)
  | .scriptName => some (.text p.scriptName)
  | .spawnTimeMin => some (.word p.spawnTimeMin)
  | .spawnTimeMax => some (.word p.spawnTimeMax)
  | .corpseTimeLooted => some (.word p.corpseTimeLooted)
  | .corpseTimeUnlooted => some (.word p.corpseTimeUnlooted)
  | .animProgress | .state | .rotation => none

def GameObjectPatch.value (p : GameObjectPatch) : AttributeName → Option Datum
  | .animProgress => some (.byte p.animProgress)
  | .state => some (.byte p.state)
  | .rotation => some (.rotation p.rotation)
  | .phaseMask => some (.word p.phaseMask)
  | .spawnMask => some (.byte p.spawnMask)
  | .aiName => some (.text p.aiName)
  | .scriptName => some (.text p.scriptName)
  | .spawnTimeMin => some (.word p.spawnTimeMin)
  | .spawnTimeMax => some (.word p.spawnTimeMax)
  | _ => none

def Patch.value : Patch → AttributeName → Option Datum
  | .creature p => p.value
  | .gameObject p => p.value

theorem CreaturePatch.ext_value {p q : CreaturePatch} (h : ∀ a, p.value a = q.value a) :
    p = q := by
  cases p
  cases q
  rw [CreaturePatch.mk.injEq]
  exact ⟨Datum.word_inj (h .spawnTimeMin), Datum.word_inj (h .spawnTimeMax),
    Datum.text_inj (h .aiName), Datum.text_inj (h .scriptName), Datum.word_inj (h .modelId),
    Datum.byte_inj (h .equipmentId), Datum.word_inj (h .currentWaypoint),
    Datum.word_inj (h .curHealth), Datum.word_inj (h .curMana), Datum.word_inj (h .npcFlag),
    Datum.word_inj (h .unitFlags), Datum.word_inj (h .dynamicFlags),
    Datum.byte_inj (h .movementType), Datum.single_inj (h .spawnDist),
    Datum.word_inj (h .corpseTimeLooted), Datum.word_inj (h .corpseTimeUnlooted),
    Datum.word_inj (h .phaseMask), Datum.byte_inj (h .spawnMask)⟩

theorem GameObjectPatch.ext_value {p q : GameObjectPatch} (h : ∀ a, p.value a = q.value a) :
    p = q := by
  cases p
  cases q
  rw [GameObjectPatch.mk.injEq]
  exact ⟨Datum.word_inj (h .spawnTimeMin), Datum.word_inj (h .spawnTimeMax),
    Datum.text_inj (h .aiName), Datum.text_inj (h .scriptName), Datum.byte_inj (h .animProgress),
    Datum.byte_inj (h .state), Datum.rotation_inj (h .rotation), Datum.word_inj (h .phaseMask),
    Datum.byte_inj (h .spawnMask)⟩

/-! ## Attributes -/

def CreatureAttributes.value (x : CreatureAttributes) : AttributeName → Option Datum
  | .modelId => some (.word x.modelId)
  | .equipmentId => some (.byte x.equipmentId)
  | .currentWaypoint => some (.word x.currentWaypoint)
  | .curHealth => some (.word x.curHealth)
  | .curMana => some (.word x.curMana)
  | .npcFlag => some (.word x.npcFlag)
  | .unitFlags => some (.word x.unitFlags)
  | .dynamicFlags => some (.word x.dynamicFlags)
  | .movementType => some (.byte x.movementType)
  | .spawnDist => some (.single x.spawnDist)
  | .phaseMask => some (.word x.phaseMask)
  | .spawnMask => some (.byte x.spawnMask)
  | .aiName => some (.text x.aiName)
  | .scriptName => some (.text x.scriptName)
  | .spawnTimeMin => some (.word x.spawnTimeMin)
  | .spawnTimeMax => some (.word x.spawnTimeMax)
  | .corpseTimeLooted => some (.word x.corpseTimeLooted)
  | .corpseTimeUnlooted => some (.word x.corpseTimeUnlooted)
  | .animProgress | .state | .rotation => none

def GameObjectAttributes.value (x : GameObjectAttributes) : AttributeName → Option Datum
  | .animProgress => some (.byte x.animProgress)
  | .state => some (.byte x.state)
  | .rotation => some (.rotation (some x.rotation))
  | .phaseMask => some (.word x.phaseMask)
  | .spawnMask => some (.byte x.spawnMask)
  | .aiName => some (.text x.aiName)
  | .scriptName => some (.text x.scriptName)
  | .spawnTimeMin => some (.word x.spawnTimeMin)
  | .spawnTimeMax => some (.word x.spawnTimeMax)
  | .corpseTimeLooted => some (.word x.corpseTimeLooted)
  | .corpseTimeUnlooted => some (.word x.corpseTimeUnlooted)
  | _ => none

def Attributes.value : Attributes → AttributeName → Option Datum
  | .creature x => x.value
  | .gameObject x => x.value

theorem CreatureAttributes.ext_value {x y : CreatureAttributes}
    (h : ∀ a, x.value a = y.value a) : x = y := by
  cases x
  cases y
  rw [CreatureAttributes.mk.injEq]
  exact ⟨Datum.word_inj (h .modelId), Datum.byte_inj (h .equipmentId),
    Datum.word_inj (h .currentWaypoint), Datum.word_inj (h .curHealth), Datum.word_inj (h .curMana),
    Datum.word_inj (h .npcFlag), Datum.word_inj (h .unitFlags), Datum.word_inj (h .dynamicFlags),
    Datum.byte_inj (h .movementType), Datum.single_inj (h .spawnDist),
    Datum.word_inj (h .phaseMask), Datum.byte_inj (h .spawnMask), Datum.text_inj (h .aiName),
    Datum.text_inj (h .scriptName), Datum.word_inj (h .spawnTimeMin),
    Datum.word_inj (h .spawnTimeMax), Datum.word_inj (h .corpseTimeLooted),
    Datum.word_inj (h .corpseTimeUnlooted)⟩

theorem GameObjectAttributes.ext_value {x y : GameObjectAttributes}
    (h : ∀ a, x.value a = y.value a) : x = y := by
  cases x
  cases y
  rw [GameObjectAttributes.mk.injEq]
  exact ⟨Datum.byte_inj (h .animProgress), Datum.byte_inj (h .state),
    Option.some.inj (Datum.rotation_inj (h .rotation)), Datum.word_inj (h .phaseMask),
    Datum.byte_inj (h .spawnMask), Datum.text_inj (h .aiName), Datum.text_inj (h .scriptName),
    Datum.word_inj (h .spawnTimeMin), Datum.word_inj (h .spawnTimeMax),
    Datum.word_inj (h .corpseTimeLooted), Datum.word_inj (h .corpseTimeUnlooted)⟩

theorem Attributes.ext_value {x y : Attributes} (hkind : x.kind = y.kind)
    (h : ∀ a, x.value a = y.value a) : x = y := by
  cases x <;> cases y
  · exact congrArg _ (CreatureAttributes.ext_value h)
  · cases hkind
  · cases hkind
  · exact congrArg _ (GameObjectAttributes.ext_value h)

/-! ## Defaults and templates -/

def CreatureDefaults.value (d : CreatureDefaults) : AttributeName → Option Datum
  | .modelId => some (.word d.modelId)
  | .equipmentId => some (.byte d.equipmentId)
  | .currentWaypoint => some (.word d.currentWaypoint)
  | .curHealth => some (.word d.curHealth)
  | .curMana => some (.word d.curMana)
  | .npcFlag => some (.word d.npcFlag)
  | .unitFlags => some (.word d.unitFlags)
  | .dynamicFlags => some (.word d.dynamicFlags)
  | _ => none

def GameObjectDefaults.value (d : GameObjectDefaults) : AttributeName → Option Datum
  | .animProgress => some (.byte d.animProgress)
  | .state => some (.byte d.state)
  | _ => none

/-- The defaults of a candidate. -/
def CandidateData.value : CandidateData → AttributeName → Option Datum
  | .creature d _ => d.value
  | .gameObject d _ => d.value

/-- The rotation of a point, which game objects stand in. -/
def SpawnPoint.value (p : SpawnPoint) : SpawnKind → AttributeName → Option Datum
  | .gameObject, .rotation => some (.rotation (some (p.rotation.getD .identity)))
  | _, _ => none

/-- The part of a template that feeds attributes of entities of a kind. Only creatures move. -/
def Template.value (t : Template) : SpawnKind → AttributeName → Option Datum
  | .creature, .movementType => some (.byte t.movementType)
  | .creature, .spawnDist => some (.single t.spawnDist)
  | _, .phaseMask => some (.word t.phaseMask)
  | _, .spawnMask => some (.byte t.spawnMask)
  | _, .spawnTimeMin => some (.word t.spawnTimes.minSecs)
  | _, .spawnTimeMax => some (.word t.spawnTimes.maxSecs)
  | _, .corpseTimeLooted => some (.word t.corpseTimes.lootedSecs)
  | _, .corpseTimeUnlooted => some (.word t.corpseTimes.unlootedSecs)
  | _, _ => none

/-- Names are empty unless a patch gives them. -/
def emptyName : AttributeName → Option Datum
  | .aiName | .scriptName => some (.text "")
  | _ => none

end SpawnForest
