import SpawnForest.Template
import SpawnForest.Table

/-!
# Respawn timers

A timer remembers that a pool lost an entity at a point, and when its root may
spawn another one. Where timers are ordered by time, ties go by kind, then by
pool, then by point.
-/

namespace SpawnForest

/-- What a timer is kept under, within its kind. -/
abbrev TimerKey := PoolId × PointId

structure Timer where
  kind : SpawnKind
  /-- The leaf that lost its entity. -/
  pool : PoolId
  /-- The root of the leaf, which spawns the replacement. -/
  root : PoolId
  point : PointId
  due : Timestamp
  firstDue : Timestamp
  grid : GridId
  zone : ZoneId
deriving DecidableEq

namespace Timer

def key (t : Timer) : TimerKey := (t.pool, t.point)

def isDue (t : Timer) (now : Timestamp) : Bool := decide (t.due ≤ now)

def earlier (a b : Timer) : Bool :=
  decide (a.due < b.due) || (a.due == b.due && decide (Key.rank a.key ≤ Key.rank b.key))

/-- The order in which timers run: by time, kind and key. -/
def runsBefore (a b : Timer) : Bool :=
  decide (a.due < b.due) || (a.due == b.due &&
    (decide (a.kind.rank < b.kind.rank) ||
      (a.kind == b.kind && decide (Key.rank a.key ≤ Key.rank b.key))))

/-- The first of the least timers by time and key. -/
def earliest? : List Timer → Option Timer
  | [] => none
  | t :: rest =>
    match earliest? rest with
    | none => some t
    | some other => if t.earlier other then some t else some other

end Timer

/-- Selects timers for removal: by exactly one of pool, grid and zone, and by
point besides if given. -/
structure TimerFilter where
  pool : Option PoolId
  grid : Option GridId
  zone : Option ZoneId
  point : Option PointId
deriving DecidableEq

namespace TimerFilter

def ofPool (pool : PoolId) : TimerFilter := ⟨some pool, none, none, none⟩

def given (f : TimerFilter) : Nat :=
  f.pool.isSome.toNat + f.grid.isSome.toNat + f.zone.isSome.toNat

/-- Whether an optional restriction lets a value pass. -/
def admits {α : Type} [DecidableEq α] (restriction : Option α) (value : α) : Bool :=
  match restriction with
  | none => true
  | some wanted => wanted == value

def selects (f : TimerFilter) (t : Timer) : Bool :=
  admits f.pool t.pool && admits f.grid t.grid && admits f.zone t.zone && admits f.point t.point

end TimerFilter

end SpawnForest
