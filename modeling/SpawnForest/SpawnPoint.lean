import SpawnForest.Attributes
import SpawnForest.Text.Numeral

/-!
# Spawn points

A spawn point carries at most one entity of a pool, in two steps: a
reservation, made as soon as a pool decides to use the point, and the entity,
there only while the point's grid is loaded. Only the reservation decides
whether the point is free. Remains of dead entities lie on the point beside
either.
-/

namespace SpawnForest

/-- A place in the world and the direction faced there. -/
structure Position where
  x : Single
  y : Single
  z : Single
  orientation : Single
deriving DecidableEq

instance : Inhabited Position := ⟨⟨.zero, .zero, .zero, .zero⟩⟩

/-- The name of an entity. Serials are never reused. -/
structure EntityHandle where
  serial : Nat
deriving DecidableEq

namespace EntityHandle

/-- `0xff`. -/
def display (h : EntityHandle) : String := Text.hexadecimal h.serial

/-- `EntityHandle(0xff)`. -/
def diagnostic (h : EntityHandle) : String := "EntityHandle(" ++ h.display ++ ")"

end EntityHandle

/-- The candidate that a point is reserved for. -/
structure Reservation where
  pool : PoolId
  entry : UInt32
  kind : SpawnKind
deriving DecidableEq

def Reservation.diagnostic (r : Reservation) : String :=
  "ItemRef \x7b pool_id: " ++ r.pool.diagnostic ++ ", entry: " ++ Text.decimal r.entry.toNat
    ++ ", kind: " ++ r.kind.diagnostic ++ " \x7d"

/-- A dead entity that is still in the world. -/
structure Remains where
  handle : EntityHandle
  pool : PoolId
  expires : Timestamp
deriving DecidableEq

structure SpawnPoint where
  id : PointId
  map : MapId
  position : Position
  /-- The rotation of game objects placed here. -/
  rotation : Option Rotation
  grid : GridId
  zone : ZoneId
  creaturePatch : Option CreaturePatch
  gameObjectPatch : Option GameObjectPatch
  reservation : Option Reservation
  entity : Option EntityHandle
  remains : List Remains
deriving DecidableEq

namespace SpawnPoint

def vacant (id : PointId) (map : MapId) (position : Position) (rotation : Option Rotation)
    (grid : GridId) (zone : ZoneId) : SpawnPoint :=
  ⟨id, map, position, rotation, grid, zone, none, none, none, none, []⟩

def isFree (p : SpawnPoint) : Bool := p.reservation.isNone

/-- Reserved, but its grid was not loaded. -/
def isPending (p : SpawnPoint) : Bool := p.reservation.isSome && p.entity.isNone

/-- Whether the point is reserved by one of some pools. -/
def isHeldBy (p : SpawnPoint) (pools : List PoolId) : Bool :=
  match p.reservation with
  | some r => pools.contains r.pool
  | none => false

def reserve (p : SpawnPoint) (r : Reservation) : SpawnPoint := { p with reservation := some r }

def release (p : SpawnPoint) : SpawnPoint := { p with reservation := none }

def attach (p : SpawnPoint) (handle : EntityHandle) : SpawnPoint :=
  { p with entity := some handle }

def detach (p : SpawnPoint) : SpawnPoint := { p with entity := none }

def retire (p : SpawnPoint) (remains : Remains) : SpawnPoint :=
  { p with remains := p.remains ++ [remains] }

def clear (p : SpawnPoint) (gone : Remains → Bool) : SpawnPoint :=
  { p with remains := p.remains.filter (fun r => !gone r) }

/-- Sets the point's patch for the kind of the patch given. -/
def patched (p : SpawnPoint) : Patch → SpawnPoint
  | .creature patch => { p with creaturePatch := some patch }
  | .gameObject patch => { p with gameObjectPatch := some patch }

end SpawnPoint

end SpawnForest
