import SpawnForest.Forest.Inheritance

/-!
# Room in a subtree

`Forest.room` says how many more entities a subtree may hold right now. A
budget comes down from above: it starts at the tightest maximum over the pool,
each group clamps it to its own maximum, and a leaf takes at most what is left
of its own limit. A group never gives more than its clamped budget, however
much its children could take.

At the minimum, leaves that inherited their limits share the floor of the
group they inherited from: each takes its part, and the rest is passed on to
the next leaf. The floor therefore goes through the walk as a second value.
-/

namespace SpawnForest

inductive Mode where
  /-- Only what is missing to the minimums. -/
  | minimum
  | maximum
deriving DecidableEq

namespace Forest

/-- What a leaf takes of a budget, and what it leaves of the shared floor. -/
def leafRoom (mode : Mode) (pool : Pool) (budget floor : Nat) : Nat × Nat :=
  let headroom := pool.maxLimit - pool.ownCount
  match mode with
  | .maximum => (min budget headroom, floor)
  | .minimum =>
    if pool.inheritsLimits then
      let taken := min (min budget headroom) floor
      (taken, floor - taken)
    else (min budget (pool.minLimit - pool.ownCount), floor)

/-- The room below a pool under a budget, and what is left of the floor that
the group above shares out. `bound` limits the depth. -/
def roomBelow (f : Forest) (mode : Mode) : Nat → PoolId → Nat → Nat → Nat × Nat
  | 0, _, _, floor => (0, floor)
  | bound + 1, id, budget, floor =>
    match f.get? id with
    | none => (0, floor)
    | some pool =>
      if !pool.active then (0, floor)
      else if pool.isLeaf then leafRoom mode pool budget floor
      else
        let clamped := min budget pool.maxRoom
        if clamped = 0 then (0, floor)
        else
          let own := pool.maxLimit > 0
          let (sum, left) := pool.children.foldl (fun (sum, floor) child =>
            let (room, floor) := roomBelow f mode bound child clamped floor
            (sum + room, floor)) (0, if own then pool.minRoom else floor)
          (min clamped sum, if own then floor else left)

/-- The tightest maximum above a pool. -/
def budgetAbove (f : Forest) (id : PoolId) : Nat :=
  (((f.ancestors id).filterMap f.get?).map (·.maxRoom)).foldl min Pool.unbounded

/-- What is left of the minimum of the group that bounds a pool. -/
def floorAbove (f : Forest) (id : PoolId) : Nat :=
  match f.boundingAncestor? id with
  | some group => group.minRoom
  | none => 0

/-- How many more entities the subtree of a pool may hold. -/
def room (f : Forest) (id : PoolId) (mode : Mode) : Nat :=
  (f.roomBelow mode (f.size + 1) id (f.budgetAbove id) (f.floorAbove id)).1

def hasRoom (f : Forest) (id : PoolId) (mode : Mode) : Bool := decide (0 < f.room id mode)

end Forest

end SpawnForest
