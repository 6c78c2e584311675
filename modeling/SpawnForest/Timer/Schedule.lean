import SpawnForest.Timer.Index

/-!
# The schedule of a map

The timers of both kinds, and for each zone and each grid the time of its last
scan. A scan looks for due timers of its region; it is refused while the last
one is less than the recheck interval ago, and a refused scan leaves no trace.
The schedule stores and selects; running a timer is the registry's work.
-/

namespace SpawnForest

structure Schedule where
  creatures : TimerIndex
  gameObjects : TimerIndex
  zoneScans : Table ZoneId Timestamp
  gridScans : Table GridId Timestamp
  recheckSecs : UInt64

namespace Schedule

def empty (recheckSecs : UInt64) : Schedule := ⟨.empty, .empty, .empty, .empty, recheckSecs⟩

def index (s : Schedule) : SpawnKind → TimerIndex
  | .creature => s.creatures
  | .gameObject => s.gameObjects

def setIndex (s : Schedule) (kind : SpawnKind) (x : TimerIndex) : Schedule :=
  match kind with
  | .creature => { s with creatures := x }
  | .gameObject => { s with gameObjects := x }

def size (s : Schedule) : Nat := s.creatures.size + s.gameObjects.size

/-- Every timer, creatures first. -/
def all (s : Schedule) : List Timer := s.creatures.all ++ s.gameObjects.all

def get? (s : Schedule) (kind : SpawnKind) (key : TimerKey) : Option Timer :=
  (s.index kind).get? key

def accepts (s : Schedule) (t : Timer) (replace : Bool) : Bool :=
  (s.index t.kind).accepts t replace

def add (s : Schedule) (t : Timer) (replace : Bool) : Schedule :=
  s.setIndex t.kind ((s.index t.kind).add t replace)

def erase (s : Schedule) (kind : SpawnKind) (key : TimerKey) : Schedule :=
  s.setIndex kind ((s.index kind).erase key)

/-- The timers that a filter selects, creatures first. -/
def selected (s : Schedule) (f : TimerFilter) : List Timer :=
  s.creatures.selected f ++ s.gameObjects.selected f

def remove (s : Schedule) (f : TimerFilter) : Schedule :=
  { s with creatures := s.creatures.remove f, gameObjects := s.gameObjects.remove f }

/-- The selected timers and the schedule without them, if the filter is a proper one. -/
def take (s : Schedule) (f : TimerFilter) : Except PoolError (List Timer × Schedule) :=
  if f.given = 1 then .ok (s.selected f, s.remove f) else .error (.ambiguousFilter f.given)

/-! ## Questions -/

def forRoot (s : Schedule) (root : PoolId) : List Timer := s.all.filter (fun t => t.root == root)

def pendingForRoot (s : Schedule) (root : PoolId) : Nat := (s.forRoot root).length

/-- How many timers belong to one of some pools. -/
def pendingIn (s : Schedule) (pools : List PoolId) : Nat :=
  (s.all.filter (fun t => pools.contains t.pool)).length

def earliestForRoot? (s : Schedule) (root : PoolId) : Option Timer :=
  Timer.earliest? (s.forRoot root)

/-- The timers that are due, in the order in which they run. -/
def due (s : Schedule) (now : Timestamp) : List Timer :=
  (s.all.filter (fun t => t.isDue now)).mergeSort Timer.runsBefore

/-! ## Scans -/

/-- Whether a region last scanned at `last` may be scanned. -/
def mayScan (recheckSecs : UInt64) (last : Option Timestamp) (now : Timestamp) : Bool :=
  match last with
  | none => true
  | some last => decide (recheckSecs.toNat ≤ now.since last)

/-- The due timers of a zone, unless the zone was scanned too recently. -/
def scanZone (s : Schedule) (zone : ZoneId) (now : Timestamp) : Option (List Timer) × Schedule :=
  if mayScan s.recheckSecs (s.zoneScans.get? zone) now then
    let found := s.creatures.inZone zone ++ s.gameObjects.inZone zone
    (some ((found.filter (fun t => t.isDue now)).mergeSort Timer.runsBefore),
      { s with zoneScans := s.zoneScans.insert zone now })
  else (none, s)

/-- The due timers of a grid, unless the grid was scanned too recently. -/
def scanGrid (s : Schedule) (grid : GridId) (now : Timestamp) : Option (List Timer) × Schedule :=
  if mayScan s.recheckSecs (s.gridScans.get? grid) now then
    let found := s.creatures.inGrid grid ++ s.gameObjects.inGrid grid
    (some ((found.filter (fun t => t.isDue now)).mergeSort Timer.runsBefore),
      { s with gridScans := s.gridScans.insert grid now })
  else (none, s)

end Schedule

end SpawnForest
