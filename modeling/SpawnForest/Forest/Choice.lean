import SpawnForest.Forest.Capacity
import SpawnForest.Random.Source

/-!
# Choosing in the forest

What a spawn has to choose: a child with room, a candidate, and a point of the
pool or of a group above it.
-/

namespace SpawnForest.Forest

/-- The children of a pool that still have room up to their maximums. -/
def openChildren (f : Forest) (id : PoolId) : List Pool :=
  ((f.children id).filter (fun child => f.hasRoom child .maximum)).filterMap f.get?

/-- A child with room, by weight. -/
def pickChild {σ : Type} [RandomSource σ] (f : Forest) (id : PoolId) (source : σ) :
    Except Fault (Option PoolId × σ) := do
  let pools := f.openChildren id
  let (picked, source) ← weightedPick (pools.map (·.weight)) source
  return ((picked.bind (fun i => pools[i]?)).map (·.id), source)

/-- A candidate's entry, by weight. -/
def pickEntry {σ : Type} [RandomSource σ] (f : Forest) (id : PoolId) (source : σ) :
    Except Fault (Option UInt32 × σ) := do
  let candidates := ((f.get? id).map (·.candidates)).getD []
  let (picked, source) ← weightedPick (candidates.map (·.weight)) source
  return ((picked.bind (fun i => candidates[i]?)).map (·.entry), source)

/-- The points of a pool, its own ones and then those of each group above. -/
def usablePoints (f : Forest) (id : PoolId) : List PointId :=
  ((id :: f.ancestors id).filterMap f.get?).flatMap (·.points)

/-- The usable points that are free. -/
def freePoints (f : Forest) (id : PoolId) (points : Table PointId SpawnPoint) : List PointId :=
  (f.usablePoints id).filter (fun p =>
    match points.get? p with
    | some point => point.isFree
    | none => false)

end SpawnForest.Forest
