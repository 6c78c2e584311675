import SpawnForest.SpawnPoint
import SpawnForest.Table

/-!
# The host of a map

Registries decide what should exist; the host makes it exist. It holds the
entities, hands out their handles, knows which grids are loaded, and keeps the
clock. It may refuse to make an entity, and then hands out no handle.

Space is cut into 64 by 64 grids with the origin at a corner of the middle
one, and eight by eight grids make a zone. Positions beyond the edge belong to
the outermost grids.
-/

namespace SpawnForest

instance : Key EntityHandle where
  rank h := h.serial
  rank_inj := by
    intro a b h
    cases a; cases b
    exact congrArg EntityHandle.mk h

/-! ## Regions -/

structure Region where
  grid : GridId
  zone : ZoneId
deriving DecidableEq

/-- The width of a grid: 533.3333. -/
def gridWidth : Single := .ofOrdinal false (Binary.single.round 5333333 10000)

def gridAxis (v : Single) : Nat := (Single.ofNat 32 - v / gridWidth).wholeUpTo 63

/-- The column and row of the grid that holds a position. -/
def gridCoords (p : Position) : Nat × Nat := (gridAxis p.x, gridAxis p.y)

def Region.ofPosition (p : Position) : Region :=
  let (x, y) := gridCoords p
  ⟨⟨UInt32.ofNat (x * 64 + y)⟩, ⟨UInt32.ofNat (x / 8 * 8 + y / 8)⟩⟩

/-! ## Entities -/

/-- Hands out serials in ascending order. -/
structure HandleSource where
  issued : Nat
deriving DecidableEq

def HandleSource.next (s : HandleSource) : EntityHandle × HandleSource :=
  (⟨s.issued⟩, ⟨s.issued + 1⟩)

structure SpawnRequest where
  kind : SpawnKind
  pool : PoolId
  point : PointId
  entry : UInt32
  position : Position
  attributes : Attributes
deriving DecidableEq

structure Host where
  handles : HandleSource
  entities : Table EntityHandle SpawnRequest
  unloaded : KeySet GridId
  /-- Entries of which no entity is made. -/
  rejected : KeySet UInt32
  now : Timestamp
  destroyed : Nat

namespace Host

/-- No entities, every grid loaded, the clock at zero. -/
def fresh : Host := ⟨⟨0⟩, .empty, .empty, .empty, ⟨0⟩, 0⟩

def advance (h : Host) (secs : Nat) : Host := { h with now := h.now.plus secs }

def setNow (h : Host) (now : Timestamp) : Host := { h with now := now }

def setGridLoaded (h : Host) (grid : GridId) (loaded : Bool) : Host :=
  { h with unloaded := if loaded then h.unloaded.erase grid else h.unloaded.add grid }

def isGridLoaded (h : Host) (grid : GridId) : Bool := !h.unloaded.contains grid

def isLoadedAt (h : Host) (p : Position) : Bool := h.isGridLoaded (Region.ofPosition p).grid

def reject (h : Host) (entry : UInt32) : Host := { h with rejected := h.rejected.add entry }

/-- Makes an entity, unless its entry is refused. -/
def instantiate? (h : Host) (request : SpawnRequest) : Option (EntityHandle × Host) :=
  if h.rejected.contains request.entry then none
  else
    let (handle, handles) := h.handles.next
    some (handle, { h with handles := handles, entities := h.entities.insert handle request })

/-- Destroys an entity; a handle that names none does nothing. -/
def destroy (h : Host) (handle : EntityHandle) : Host :=
  if h.entities.contains handle then
    { h with entities := h.entities.erase handle, destroyed := h.destroyed + 1 }
  else h

end Host

end SpawnForest
