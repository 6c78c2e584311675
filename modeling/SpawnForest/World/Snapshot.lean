import SpawnForest.Plan.Reader
import SpawnForest.Registry.State
import SpawnForest.World.Instance

/-!
# Stored timers

Only timers survive a restart; the population is spawned anew, less the room
that pending timers lay claim to. A snapshot holds the pool, the point and the
time of every timer of an instance, sorted, and a digest of everything else in
it. A snapshot whose digest does not fit is refused.
-/

namespace SpawnForest

inductive SnapshotError where
  | malformed
  | hashMismatch (expected actual : String)
deriving DecidableEq

def SnapshotError.message : SnapshotError → String
  | malformed => "malformed snapshot"
  | hashMismatch expected actual =>
    "snapshot hash mismatch: expected " ++ expected ++ ", got " ++ actual

structure StoredTimer where
  pool : PoolId
  point : PointId
  map : MapId
  instanceId : UInt32
  due : Timestamp
deriving DecidableEq

namespace StoredTimer

/-- The numbers by which stored timers are sorted, first to last. -/
def sortKey (t : StoredTimer) : List Nat :=
  [t.pool.number.toNat, t.point.number.toNat, t.map.number.toNat, t.instanceId.toNat, t.due.toNat]

def sortsBefore (a b : StoredTimer) : Bool := !b.sortKey.lex a.sortKey

def toJson (t : StoredTimer) : Json :=
  .record [("pool_id", t.pool.toJson), ("point_id", t.point.toJson), ("map_id", t.map.toJson),
    ("instance_id", .ofNat t.instanceId.toNat), ("timestamp", t.due.toJson)]

def ofJson? (value : Json) : Option StoredTimer := do
  let f ← value.fields? ["pool_id", "point_id", "map_id", "instance_id", "timestamp"]
  let pool ← f.required "pool_id" Id.ofJson?
  let point ← f.required "point_id" Id.ofJson?
  let map ← f.required "map_id" Id.ofJson?
  let instanceId ← f.required "instance_id" Json.uint32?
  let due ← f.required "timestamp" Timestamp.ofJson?
  return ⟨pool, point, map, instanceId, due⟩

end StoredTimer

/-- What a snapshot's digest is taken of. -/
structure SnapshotContent where
  map : MapId
  instanceId : UInt32
  takenAt : Timestamp
  timers : List StoredTimer
deriving DecidableEq

namespace SnapshotContent

def members (c : SnapshotContent) : List (String × Json) :=
  [("map_id", c.map.toJson), ("instance_id", .ofNat c.instanceId.toNat),
    ("taken_at", c.takenAt.toJson), ("timers", .list (c.timers.map StoredTimer.toJson))]

/-- The compact text that the digest is taken of. -/
def text (c : SnapshotContent) : String := (Json.record c.members).compact

def hash (c : SnapshotContent) : String := Digest.hex c.text

end SnapshotContent

structure TimerSnapshot where
  content : SnapshotContent
  /-- The digest of the content, in hexadecimal digits. -/
  hash : String
deriving DecidableEq

namespace TimerSnapshot

def ofContent (c : SnapshotContent) : TimerSnapshot := ⟨c, c.hash⟩

def capture (i : MapInstance) : TimerSnapshot :=
  let r := i.registry
  let timers := r.timers.all.map fun t =>
    { pool := t.pool, point := t.point, map := r.map, instanceId := i.config.instanceId,
      due := t.due : StoredTimer }
  ofContent
    { map := r.map
      instanceId := i.config.instanceId
      takenAt := r.now
      timers := timers.mergeSort StoredTimer.sortsBefore }

def verify (s : TimerSnapshot) : Except SnapshotError Unit :=
  if s.content.hash = s.hash then .ok () else .error (.hashMismatch s.hash s.content.hash)

/-! ## Text -/

def toJson (s : TimerSnapshot) : Json := .record (s.content.members ++ [("hash", .ofString s.hash)])

def toText (s : TimerSnapshot) : String := s.toJson.pretty

def ofJson? (value : Json) : Option TimerSnapshot := do
  let f ← value.fields? ["map_id", "instance_id", "taken_at", "timers", "hash"]
  let map ← f.required "map_id" Id.ofJson?
  let instanceId ← f.required "instance_id" Json.uint32?
  let takenAt ← f.required "taken_at" Timestamp.ofJson?
  let timers ← f.required "timers" (Json.listOf? StoredTimer.ofJson?)
  let hash ← f.required "hash" Json.string?
  return ⟨⟨map, instanceId, takenAt, timers⟩, hash⟩

/-- Reads and verifies a stored snapshot. -/
def ofText (text : String) : Except SnapshotError TimerSnapshot :=
  match (Json.ofText? text).bind ofJson? with
  | none => .error .malformed
  | some s => s.verify.map (fun _ => s)

/-! ## Restoring -/

def isFor (i : MapInstance) (t : StoredTimer) : Bool :=
  t.map == i.map && t.instanceId == i.config.instanceId

/-- Puts one stored timer back. A timer for another instance, or of a pool or
point that is gone, is passed over, as is one that comes later than the timer
already there. -/
def restoreOne (i : MapInstance) (t : StoredTimer) : Bool × MapInstance :=
  if isFor i t then
    match i.registry.restoreTimer t.pool t.point t.due with
    | .ok (stored, r) => (stored, { i with registry := r })
    | .error _ => (false, i)
  else (false, i)

/-- Puts the timers of a verified snapshot back, and counts those that were stored. -/
def restore (s : TimerSnapshot) (i : MapInstance) : Except SnapshotError (Nat × MapInstance) :=
  match s.verify with
  | .error e => .error e
  | .ok () =>
    .ok (s.content.timers.foldl (fun (restored, i) t =>
      let (stored, i) := restoreOne i t
      (restored + stored.toNat, i)) (0, i))

end TimerSnapshot

end SpawnForest
