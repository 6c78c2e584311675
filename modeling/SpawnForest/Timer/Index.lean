import SpawnForest.PoolError
import SpawnForest.Timer.Basic

/-!
# An index of timers

The timers of one kind, at most one for each pool and point. Besides the
timers by key the index keeps the keys of each grid and of each zone, so that a
region that wakes up finds its timers without looking through all of them. A
region without timers has no bucket at all, so equal timers mean equal indexes.
-/

namespace SpawnForest

structure TimerIndex where
  timers : Table TimerKey Timer
  byGrid : Table GridId (KeySet TimerKey)
  byZone : Table ZoneId (KeySet TimerKey)

namespace TimerIndex

def empty : TimerIndex := ⟨.empty, .empty, .empty⟩

def size (x : TimerIndex) : Nat := x.timers.size

def get? (x : TimerIndex) (key : TimerKey) : Option Timer := x.timers.get? key

def all (x : TimerIndex) : List Timer := x.timers.values

/-! ## Buckets -/

variable {realm : Realm}

def enter (buckets : Table (Id realm) (KeySet TimerKey)) (region : Id realm) (key : TimerKey) :
    Table (Id realm) (KeySet TimerKey) :=
  buckets.insert region (((buckets.get? region).getD .empty).add key)

/-- Takes a key out of the bucket of a region, and the bucket away with its last key. -/
def leave (buckets : Table (Id realm) (KeySet TimerKey)) (region : Id realm) (key : TimerKey) :
    Table (Id realm) (KeySet TimerKey) :=
  match buckets.get? region with
  | none => buckets
  | some bucket =>
    let bucket := bucket.erase key
    if bucket.isEmpty then buckets.erase region else buckets.insert region bucket

def bucketKeys (buckets : Table (Id realm) (KeySet TimerKey)) (region : Id realm) : List TimerKey :=
  match buckets.get? region with
  | none => []
  | some bucket => bucket.keys

/-! ## Changes -/

def erase (x : TimerIndex) (key : TimerKey) : TimerIndex :=
  match x.timers.get? key with
  | none => x
  | some t =>
    { timers := x.timers.erase key
      byGrid := leave x.byGrid t.grid key
      byZone := leave x.byZone t.zone key }

/-- Stores a timer over any that its key had. -/
def put (x : TimerIndex) (t : Timer) : TimerIndex :=
  let x := x.erase t.key
  { timers := x.timers.insert t.key t
    byGrid := enter x.byGrid t.grid t.key
    byZone := enter x.byZone t.zone t.key }

/-- Whether a timer may be stored: with `replace` always, else only if its key
has no timer that is due as early. -/
def accepts (x : TimerIndex) (t : Timer) (replace : Bool) : Bool :=
  match x.get? t.key with
  | none => true
  | some existing => replace || !decide (existing.due ≤ t.due)

def add (x : TimerIndex) (t : Timer) (replace : Bool) : TimerIndex :=
  if x.accepts t replace then x.put t else x

/-! ## Regions -/

def inGrid (x : TimerIndex) (grid : GridId) : List Timer :=
  ((bucketKeys x.byGrid grid).filterMap x.get?).mergeSort Timer.earlier

def inZone (x : TimerIndex) (zone : ZoneId) : List Timer :=
  ((bucketKeys x.byZone zone).filterMap x.get?).mergeSort Timer.earlier

/-! ## Removal by filter -/

/-- The keys that a filter has to look at. -/
def reach (x : TimerIndex) (f : TimerFilter) : List TimerKey :=
  match f.grid, f.zone with
  | some grid, _ => bucketKeys x.byGrid grid
  | none, some zone => bucketKeys x.byZone zone
  | none, none => x.timers.keys

def selected (x : TimerIndex) (f : TimerFilter) : List Timer :=
  ((x.reach f).filterMap x.get?).filter f.selects

def remove (x : TimerIndex) (f : TimerFilter) : TimerIndex :=
  (x.selected f).foldl (fun x t => x.erase t.key) x

/-- The selected timers and the index without them, if the filter is a proper one. -/
def take (x : TimerIndex) (f : TimerFilter) : Except PoolError (List Timer × TimerIndex) :=
  if f.given = 1 then .ok (x.selected f, x.remove f) else .error (.ambiguousFilter f.given)

end TimerIndex

end SpawnForest
