import SpawnForest.Forest.Pool
import SpawnForest.Table

/-!
# The forest of pools

The pools of a map by number, with the links between them. An edge is added
only if it keeps the forest a forest (`Forest.link`), so every walk up ends
after fewer steps than there are pools, and every walk down as well. The walks
carry the number of pools as a bound on their depth, which no forest exceeds.
-/

namespace SpawnForest

inductive LinkError where
  | missingParent (parent : PoolId)
  | missingChild (child : PoolId)
  | cycle (parent child : PoolId)
  | alreadyParented (child existing : PoolId)
deriving DecidableEq

def LinkError.message : LinkError → String
  | missingParent parent => "parent pool " ++ parent.display ++ " does not exist"
  | missingChild child => "child pool " ++ child.display ++ " does not exist"
  | cycle parent child =>
    "pool " ++ child.display ++ " is already part of the hierarchy of pool " ++ parent.display
  | alreadyParented child existing =>
    "pool " ++ child.display ++ " already has parent " ++ existing.display

structure Forest where
  pools : Table PoolId Pool

namespace Forest

def empty : Forest := ⟨.empty⟩

def get? (f : Forest) (id : PoolId) : Option Pool := f.pools.get? id

def contains (f : Forest) (id : PoolId) : Bool := f.pools.contains id

/-- Every pool, by number. -/
def all (f : Forest) : List Pool := f.pools.values

def size (f : Forest) : Nat := f.pools.size

def modify (f : Forest) (id : PoolId) (change : Pool → Pool) : Forest :=
  ⟨f.pools.modify id change⟩

/-- Adds a pool, unless its number is taken. -/
def insert? (f : Forest) (pool : Pool) : Option Forest :=
  if f.contains pool.id then none else some ⟨f.pools.insert pool.id pool⟩

/-! ## Walks -/

def parent? (f : Forest) (id : PoolId) : Option PoolId := (f.get? id).bind (·.parent)

def children (f : Forest) (id : PoolId) : List PoolId :=
  match f.get? id with
  | some pool => pool.children
  | none => []

/-- The pools met going up from a pool, at most `bound` of them. -/
def climb (f : Forest) : Nat → Option PoolId → List PoolId
  | 0, _ => []
  | _, none => []
  | bound + 1, some id => id :: climb f bound (f.parent? id)

/-- The pools above a pool, nearest first. -/
def ancestors (f : Forest) (id : PoolId) : List PoolId := f.climb (f.size + 1) (f.parent? id)

/-- A pool and the pools below it, at most `bound` levels deep, parents before children. -/
def descend (f : Forest) : Nat → PoolId → List PoolId
  | 0, _ => []
  | bound + 1, id => id :: (f.children id).flatMap (descend f bound)

/-- A pool and everything below it, parents before children. -/
def subtree (f : Forest) (id : PoolId) : List PoolId :=
  if f.contains id then f.descend (f.size + 1) id else []

def top (f : Forest) (id : PoolId) : PoolId := (f.ancestors id).getLast?.getD id

def roots (f : Forest) : List Pool := f.all.filter (·.isRoot)

/-- The root that was settled for a pool. -/
def rootOf? (f : Forest) (id : PoolId) : Option PoolId := (f.get? id).map (·.root)

/-- Whether a pool and everything above it is switched on. -/
def isActive (f : Forest) (id : PoolId) : Bool :=
  (id :: f.ancestors id).all (fun a =>
    match f.get? a with
    | some pool => pool.active
    | none => false)

/-! ## Links -/

/-- Whether `candidate` is anywhere in the hierarchy that holds `id`. -/
def inHierarchy (f : Forest) (id candidate : PoolId) : Bool :=
  (f.subtree (f.top id)).contains candidate

/-- Puts a pool under a parent, with its weight among the children there. -/
def link (f : Forest) (parent child : PoolId) (chance : Single) : Except LinkError Forest :=
  if !f.contains parent then .error (.missingParent parent)
  else
    match f.get? child with
    | none => .error (.missingChild child)
    | some pool =>
      if f.inHierarchy parent child then .error (.cycle parent child)
      else
        match pool.parent with
        | some existing => .error (.alreadyParented child existing)
        | none =>
          let f := f.modify parent (fun p => { p with children := p.children ++ [child] })
          .ok (f.modify child (fun c => { c with parent := some parent, chance := chance }))

def settleRoots (f : Forest) : Forest :=
  ⟨f.pools.map (fun id pool => { pool with root := f.top id })⟩

end Forest

end SpawnForest
