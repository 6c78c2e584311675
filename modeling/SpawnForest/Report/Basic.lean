import SpawnForest.Binary.Shortest
import SpawnForest.Registry.Removal
import SpawnForest.Text.Numeral
import SpawnForest.Text.Quoted

/-!
# Reports for operators

Read-only views of a registry: one line for each root, and the full picture of
one pool with everything below it, each level two spaces further in.
-/

namespace SpawnForest

/-- `[2..5]`. -/
def limitsText (least greatest : UInt32) : String :=
  "[" ++ Text.decimal least.toNat ++ ".." ++ Text.decimal greatest.toNat ++ "]"

/-! ## The list of roots -/

/-- One line of the list. -/
structure PoolSummary where
  pool : PoolId
  description : String
  kind : SpawnKind
  minLimit : UInt32
  maxLimit : UInt32
  spawned : Nat
  active : Bool
  children : Nat
  /-- The timers that respawn into the root. -/
  pending : Nat
deriving DecidableEq

namespace PoolSummary

def ofPool (p : Pool) (pending : Nat) : PoolSummary where
  pool := p.id
  description := p.template.description
  kind := p.kind
  minLimit := p.template.minLimit
  maxLimit := p.template.maxLimit
  spawned := p.totalCount
  active := p.active
  children := p.children.length
  pending := pending

def display (s : PoolSummary) : String :=
  s.pool.display ++ " " ++ Text.quoted s.description ++ " " ++ limitsText s.minLimit s.maxLimit
    ++ " spawned " ++ Text.decimal s.spawned ++ " children " ++ Text.decimal s.children
    ++ " pending " ++ Text.decimal s.pending ++ (if s.active then "" else " (inactive)")

end PoolSummary

def Registry.listRoots (r : Registry) : List PoolSummary :=
  r.forest.roots.map (fun p => .ofPool p (r.timers.pendingForRoot p.id))

/-! ## The picture of a pool -/

/-- A point reserved by a pool, and its entity if there is one. -/
structure OccupiedPoint where
  point : PointId
  entry : UInt32
  entity : Option Nat
deriving DecidableEq

def OccupiedPoint.display (o : OccupiedPoint) : String :=
  o.point.display ++ " entry " ++ Text.decimal o.entry.toNat ++
    (match o.entity with
      | some serial => " entity " ++ EntityHandle.display ⟨serial⟩
      | none => " pending")

structure DumpEntry where
  pool : PoolId
  description : String
  kind : SpawnKind
  minLimit : UInt32
  maxLimit : UInt32
  chance : Single
  spawned : Nat
  minRoom : Nat
  maxRoom : Nat
  occupied : List OccupiedPoint

/-- A pool and the dumps of its children. -/
inductive PoolDump where
  | node (entry : DumpEntry) (children : List PoolDump)

/-- The lines of one pool, `depth` levels in. -/
def DumpEntry.lines (d : DumpEntry) (depth : Nat) : String :=
  let pad := String.ofList (List.replicate (2 * depth) ' ')
  pad ++ d.pool.display ++ " " ++ Text.quoted d.description ++ " "
    ++ limitsText d.minLimit d.maxLimit ++ " chance " ++ d.chance.display
    ++ " spawned " ++ Text.decimal d.spawned ++ " spawnable " ++ Text.decimal d.minRoom
    ++ "/" ++ Text.decimal d.maxRoom ++ "\n"
    ++ String.join (d.occupied.map (fun o => pad ++ "  - " ++ o.display ++ "\n"))

namespace PoolDump

def entry : PoolDump → DumpEntry
  | node entry _ => entry

mutual

def count : PoolDump → Nat
  | node _ children => 1 + countAll children

def countAll : List PoolDump → Nat
  | [] => 0
  | d :: rest => count d + countAll rest

end

mutual

def displayAt (depth : Nat) : PoolDump → String
  | node entry children => entry.lines depth ++ displayAll (depth + 1) children

def displayAll (depth : Nat) : List PoolDump → String
  | [] => ""
  | d :: rest => displayAt depth d ++ displayAll depth rest

end

def display (d : PoolDump) : String := displayAt 0 d

end PoolDump

namespace Registry

def dumpEntry (r : Registry) (pool : Pool) : DumpEntry where
  pool := pool.id
  description := pool.template.description
  kind := pool.kind
  minLimit := pool.template.minLimit
  maxLimit := pool.template.maxLimit
  chance := pool.chance
  spawned := pool.totalCount
  minRoom := r.forest.room pool.id .minimum
  maxRoom := r.forest.room pool.id .maximum
  occupied := (r.points.values.filter (fun p => p.isHeldBy [pool.id])).filterMap fun p =>
    p.reservation.map fun held => ⟨p.id, held.entry, p.entity.map (·.serial)⟩

/-- The dump of a pool, at most `bound` levels deep. -/
def dumpBelow (r : Registry) : Nat → PoolId → Except PoolError PoolDump
  | 0, id => .error (.unknownPool id)
  | bound + 1, id => do
    let pool ← r.requirePool id
    let children ← pool.children.mapM (dumpBelow r bound)
    return .node (r.dumpEntry pool) children

def dumpPool (r : Registry) (id : PoolId) : Except PoolError PoolDump :=
  r.dumpBelow (r.forest.size + 1) id

end Registry

end SpawnForest
