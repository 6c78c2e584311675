import SpawnForest.Forest.Basic

/-!
# Counting entities

Whatever is gained or lost by a pool is gained or lost by every group above it
as well. Counts stay within 32 bits: a step that would leave them is dropped
for the one count that it would break.
-/

namespace SpawnForest.Forest

/-- A count after a step, within 32 bits. -/
def bump (count : Nat) (delta : Int) : Nat :=
  let next := (count : Int) + delta
  if 0 ≤ next && next < 0x100000000 then next.toNat else count

/-- Adds `delta` to the total of a pool and of every pool above it, and to the
pool's own count unless `totalsOnly` is set. -/
def adjust (f : Forest) (id : PoolId) (delta : Int) (totalsOnly : Bool) : Forest :=
  if f.contains id then
    let path := id :: f.ancestors id
    ⟨f.pools.map (fun key pool =>
      { pool with
        ownCount := if key = id && !totalsOnly then bump pool.ownCount delta else pool.ownCount
        totalCount := if path.contains key then bump pool.totalCount delta else pool.totalCount })⟩
  else f

def gain (f : Forest) (id : PoolId) : Forest := f.adjust id 1 false

def lose (f : Forest) (id : PoolId) : Forest := f.adjust id (-1) false

end SpawnForest.Forest
