import SpawnForest.Registry.Placement

/-!
# Populating pools

`spawnPool` is the way in for every spawn but the direct ones: it fills a pool
one entity at a time, each by a descent of its own, first what is missing to
the minimums and then up to the maximums. Finding no room, no free point or no
candidate is an ordinary outcome; that one spawn then comes to nothing.
-/

namespace SpawnForest.Registry

/-! ## One spawn -/

/-- Goes down from a pool to a leaf, by weight among the children with room. -/
def descendToLeaf (mode : Mode) : Nat → PoolId → Action (Option PoolId)
  | 0, _ => return none
  | bound + 1, id => do
    let r ← get
    if !r.forest.hasRoom id mode then return none
    match r.forest.get? id with
    | none => return none
    | some pool =>
      if pool.isLeaf then return some id
      match ← choose (r.forest.pickChild id) with
      | none => return none
      | some child => descendToLeaf mode bound child

def chooseAny {α : Type} (items : List α) : Action (Option α) := do
  if items.isEmpty then return none
  let n ← choose (fun random => .ok (RandomSource.natIn 0 (items.length - 1) random))
  return items[n]?

/-- One descent from a pool and one entity at the leaf it ends in. -/
def spawnSingle (pool : PoolId) (mode : Mode) : Action Bool := do
  match ← descendToLeaf mode ((← get).forest.size + 1) pool with
  | none => return false
  | some leaf =>
    let r ← get
    match ← chooseAny (r.forest.freePoints leaf r.points) with
    | none => return false
    | some point =>
      match ← choose (r.forest.pickEntry leaf) with
      | none => return false
      | some entry =>
        match r.forest.get? leaf with
        | none => return false
        | some p => spawnAt p.kind leaf entry point

/-! ## Filling -/

/-- So many spawns, at the minimum until one comes to nothing. That one is
tried again at the maximum, and so are all that follow. -/
def fill (pool : PoolId) : Nat → Mode → Action Nat
  | 0, _ => return 0
  | count + 1, .minimum => do
    if ← spawnSingle pool .minimum then
      return (← fill pool count .minimum) + 1
    else
      let spawned ← spawnSingle pool .maximum
      return (← fill pool count .maximum) + spawned.toNat
  | count + 1, .maximum => do
    let spawned ← spawnSingle pool .maximum
    return (← fill pool count .maximum) + spawned.toNat

/-- The room of a pool that no timer of its subtree lays claim to. -/
def unclaimedRoom (r : Registry) (pool : PoolId) : Nat :=
  r.forest.room pool .maximum - r.timers.pendingIn (r.forest.subtree pool)

/-- Spawns up to `count` entities into a pool, or into all of its unclaimed
room if `count` is zero, and counts them. A pool that is unknown or switched
off spawns nothing. -/
def spawnPool (pool : PoolId) (count : Nat) : Action Nat := do
  let r ← get
  if !r.forest.contains pool || !r.forest.isActive pool then return 0
  fill pool (if count = 0 then r.unclaimedRoom pool else count) .minimum

def spawnPools : List PoolId → Action Nat
  | [] => return 0
  | pool :: rest => do
    let spawned ← spawnPool pool 0
    return spawned + (← spawnPools rest)

def spawnAll : Action Nat := do
  spawnPools (← get).rootPools

/-! ## Emptying -/

/-- Takes the entity off a point, if it has one, and destroys it. -/
def destroyAt (r : Registry) (p : SpawnPoint) : Registry :=
  match p.entity with
  | none => r
  | some handle =>
    { r.modifyPoint p.id (·.detach) with
      live := r.live.erase handle
      host := r.host.destroy handle }

def vacate (r : Registry) (p : SpawnPoint) : Registry :=
  let r := r.destroyAt p
  match p.reservation with
  | none => r
  | some held => r.release p.id held.pool

def clearRemains (r : Registry) (gone : Remains → Bool) : Nat × Registry :=
  let cleared := r.points.values.flatMap (fun p => p.remains.filter gone)
  (cleared.length,
    { r with
      points := r.points.map (fun _ p => p.clear gone)
      host := cleared.foldl (fun h remains => h.destroy remains.handle) r.host })

/-- Frees every point reserved by the subtree of a pool, clears the subtree's
remains as well if `corpses` is set, and counts the points freed. -/
def despawnPool (r : Registry) (pool : PoolId) (corpses : Bool) : Nat × Registry :=
  let members := r.forest.subtree pool
  let held := r.points.values.filter (fun p => p.isHeldBy members)
  let r := held.foldl vacate r
  (held.length, if corpses then (r.clearRemains (fun x => members.contains x.pool)).2 else r)

def dropTimers (r : Registry) (pool : PoolId) : Registry :=
  { r with
    timers := (r.forest.subtree pool).foldl (fun s id => s.remove (.ofPool id)) r.timers }

/-! ## Operators' changes -/

/-- Drops the timers under a pool and spawns it back to its room. -/
def respawnPool (pool : PoolId) : Action Nat := do
  modify (·.dropTimers pool)
  spawnPool pool 0

/-- Empties a pool and spawns it anew; remains stay. -/
def reseedPool (pool : PoolId) : Action Nat := do
  modify (fun r => (r.despawnPool pool false).2)
  respawnPool pool

/-- Switches a pool on and populates it, or switches it off, drops its timers
and empties it. Gives the entities spawned or the points freed; none if there
is no such pool. -/
def setActive (pool : PoolId) (active : Bool) : Action (Option Nat) := do
  if !(← get).forest.contains pool then return none
  modify (fun r => { r with forest := r.forest.modify pool (fun p => { p with active := active }) })
  if active then
    return some (← spawnPool pool 0)
  else
    let (freed, r) := ((← get).dropTimers pool).despawnPool pool false
    set r
    return some freed

end SpawnForest.Registry
