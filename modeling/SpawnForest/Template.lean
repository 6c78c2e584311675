import SpawnForest.Ident
import SpawnForest.Binary.Single

/-!
# Pool templates

A template is the configuration of one pool: what it spawns, how many, and the
timing and masks of what it spawns. Zero in an inheritable field means that
the pool takes the value of its parent (`Template.inherit`); limits are never
inherited this way.
-/

namespace SpawnForest

/-- What a pool, and each of its candidates, spawns. -/
inductive SpawnKind where
  | creature
  | gameObject
deriving DecidableEq

namespace SpawnKind

instance : Inhabited SpawnKind := ⟨.creature⟩

def ofCode? : UInt8 → Option SpawnKind
  | 0 => some .creature
  | 1 => some .gameObject
  | _ => none

def code : SpawnKind → UInt8
  | .creature => 0
  | .gameObject => 1

/-- The word for the kind in documents. -/
def word : SpawnKind → String
  | .creature => "creature"
  | .gameObject => "game_object"

def diagnostic : SpawnKind → String
  | .creature => "Creature"
  | .gameObject => "GameObject"

/-- Creatures come first wherever kinds are ordered. -/
def rank : SpawnKind → Nat
  | .creature => 0
  | .gameObject => 1

end SpawnKind

structure PoolFlags where
  bits : UInt32
deriving DecidableEq

namespace PoolFlags

def empty : PoolFlags := ⟨0⟩

/-- The pool spawns only after it has been activated. -/
def manualSpawn : PoolFlags := ⟨1⟩

/-- Every flag that has a meaning. -/
def every : PoolFlags := ⟨1⟩

def contains (flags other : PoolFlags) : Bool := flags.bits &&& other.bits == other.bits

/-- Drops the bits without a meaning. -/
def known (flags : PoolFlags) : PoolFlags := ⟨flags.bits &&& every.bits⟩

end PoolFlags

/-- The delay of a respawn, in seconds. -/
structure SpawnTimes where
  minSecs : UInt32
  maxSecs : UInt32
  /-- The delay while the root is below its minimum, if not zero. -/
  fastSecs : UInt32
deriving DecidableEq

/-- How long remains stay, in seconds. -/
structure CorpseTimes where
  lootedSecs : UInt32
  unlootedSecs : UInt32
deriving DecidableEq

def CorpseTimes.secs (times : CorpseTimes) (looted : Bool) : UInt32 :=
  if looted then times.lootedSecs else times.unlootedSecs

structure Template where
  map : MapId
  pool : PoolId
  kind : SpawnKind
  phaseMask : UInt32
  spawnMask : UInt8
  minLimit : UInt32
  maxLimit : UInt32
  movementType : UInt8
  spawnDist : Single
  spawnTimes : SpawnTimes
  corpseTimes : CorpseTimes
  description : String
  flags : PoolFlags
deriving DecidableEq

namespace Template

/-- A template with the given limits and nothing else set. -/
def bare (map : MapId) (pool : PoolId) (kind : SpawnKind) (minLimit maxLimit : UInt32) :
    Template where
  map := map
  pool := pool
  kind := kind
  phaseMask := 0
  spawnMask := 0
  minLimit := minLimit
  maxLimit := maxLimit
  movementType := 0
  spawnDist := .zero
  spawnTimes := ⟨0, 0, 0⟩
  corpseTimes := ⟨0, 0⟩
  description := ""
  flags := .empty

/-- A child's own value, or the parent's if the child has none. -/
def inheritWord (own parent : UInt32) : UInt32 := if own = 0 then parent else own

/-- Fills every inheritable field without a value from the parent's template. -/
def inherit (child parent : Template) : Template :=
  { child with
    spawnTimes :=
      { minSecs := inheritWord child.spawnTimes.minSecs parent.spawnTimes.minSecs
        maxSecs := inheritWord child.spawnTimes.maxSecs parent.spawnTimes.maxSecs
        fastSecs := inheritWord child.spawnTimes.fastSecs parent.spawnTimes.fastSecs }
    corpseTimes :=
      { lootedSecs := inheritWord child.corpseTimes.lootedSecs parent.corpseTimes.lootedSecs
        unlootedSecs := inheritWord child.corpseTimes.unlootedSecs parent.corpseTimes.unlootedSecs }
    phaseMask := inheritWord child.phaseMask parent.phaseMask
    spawnMask := if child.spawnMask = 0 then parent.spawnMask else child.spawnMask }

def isManual (t : Template) : Bool := t.flags.contains .manualSpawn

end Template

end SpawnForest
