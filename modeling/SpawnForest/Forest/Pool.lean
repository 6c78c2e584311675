import SpawnForest.Candidate

/-!
# A pool of the forest

Pools name their parent and their children by number only; whatever needs more
than one of them is an operation of the forest. A pool without children is a
leaf, and only leaves hold candidates. Each pool counts the entities of its own
and those of its whole subtree.
-/

namespace SpawnForest

structure Pool where
  template : Template
  parent : Option PoolId
  /-- The top of the hierarchy, as of the last `Forest.settleRoots`. -/
  root : PoolId
  children : List PoolId
  /-- The weight among the parent's children. -/
  chance : Single
  /-- Entities and reservations of exactly this pool. -/
  ownCount : Nat
  /-- Entities and reservations of the whole subtree. -/
  totalCount : Nat
  active : Bool
  /-- The pool is a leaf whose maximum was taken from a group above it. At the
  minimum it draws on that group's minimum instead of one of its own. -/
  inheritsLimits : Bool
  points : List PointId
  candidates : List Candidate
deriving DecidableEq

namespace Pool

/-- A pool on its own, switched on unless it waits for an activation. -/
def ofTemplate (template : Template) : Pool where
  template := template
  parent := none
  root := template.pool
  children := []
  chance := .zero
  ownCount := 0
  totalCount := 0
  active := !template.isManual
  inheritsLimits := false
  points := []
  candidates := []

def id (p : Pool) : PoolId := p.template.pool

def kind (p : Pool) : SpawnKind := p.template.kind

def minLimit (p : Pool) : Nat := p.template.minLimit.toNat

def maxLimit (p : Pool) : Nat := p.template.maxLimit.toNat

def isLeaf (p : Pool) : Bool := p.children.isEmpty

def isRoot (p : Pool) : Bool := p.parent.isNone

def weight (p : Pool) : Single := p.chance.max .one

def candidate? (p : Pool) (entry : UInt32) : Option Candidate :=
  p.candidates.find? (fun c => c.entry == entry)

/-- More room than any limit can leave. -/
def unbounded : Nat := 0xffffffff

/-- What the maximum leaves to the subtree. A group without a maximum is unbounded. -/
def maxRoom (p : Pool) : Nat :=
  if p.maxLimit = 0 && !p.isLeaf then unbounded else p.maxLimit - p.totalCount

/-- What is missing in the subtree before the minimum is met. -/
def minRoom (p : Pool) : Nat := p.minLimit - p.totalCount

end Pool

end SpawnForest
