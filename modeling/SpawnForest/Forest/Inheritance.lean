import SpawnForest.Forest.Basic

/-!
# Handing values down

Templates leave fields open, and the open ones are filled from the group above
before anything is spawned, so that spawning never has to look up. The pass
goes from every root downward and meets each parent before its children.

Limits go another way: a leaf without a maximum is capped by the nearest group
above that has one, keeps a minimum of zero, and is marked as sharing that
group's minimum.
-/

namespace SpawnForest.Forest

/-- The nearest pool above with a maximum. -/
def boundingAncestor? (f : Forest) (id : PoolId) : Option Pool :=
  ((f.ancestors id).filterMap f.get?).find? (fun pool => pool.maxLimit > 0)

/-- A pool that takes what it lacks from its parent's template and, if it is a
leaf without a maximum, from the cap over it. -/
def inheritFrom (parent : Template) (cap : Option UInt32) (pool : Pool) : Pool :=
  let pool := { pool with template := pool.template.inherit parent }
  match cap with
  | some limit =>
    if pool.isLeaf && pool.maxLimit = 0 then
      { pool with
        template := { pool.template with minLimit := 0, maxLimit := limit }
        inheritsLimits := true }
    else pool
  | none => pool

/-- Hands down to one pool from the pools above it. -/
def settle (f : Forest) (id : PoolId) : Forest :=
  match (f.parent? id).bind f.get? with
  | none => f
  | some parent =>
    let cap := (f.boundingAncestor? id).map (·.template.maxLimit)
    f.modify id (inheritFrom parent.template cap)

def trickle (f : Forest) : Forest :=
  (f.roots.flatMap (fun root => f.subtree root.id)).foldl settle f

end SpawnForest.Forest
