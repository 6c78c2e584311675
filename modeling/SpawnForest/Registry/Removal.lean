import SpawnForest.Registry.Population

/-!
# Losing entities and running timers

An entity that dies leaves remains and a timer; one that only disappears leaves
neither. Either way its point is free again, and if the root has fallen below
its minimum and some timer of it is pending, a replacement is tried at once and
uses that timer up. Grids that unload take entities out of the world and leave
their reservations for the next time.
-/

namespace SpawnForest.Registry

/-! ## Replacement at once -/

/-- The timer that a replacement uses up: the one of the point itself, or the
soonest one of the root. -/
def replacementTimer? (r : Registry) (kind : SpawnKind) (root pool : PoolId) (point : PointId) :
    Option Timer :=
  match r.timers.get? kind (pool, point) with
  | some t => some t
  | none => r.timers.earliestForRoot? root

/-- Tries a replacement if the root of a pool is below its minimum and a timer
waits for it. The timer goes only if the spawn succeeds. -/
def expedite (kind : SpawnKind) (pool : PoolId) (point : PointId) : Action Bool := do
  let r ← get
  match r.forest.rootOf? pool with
  | none => return false
  | some root =>
    if !r.forest.hasRoom root .minimum then return false
    match r.replacementTimer? kind root pool point with
    | none => return false
    | some t =>
      if (← spawnPool root 1) = 1 then
        modify (fun r => { r with timers := r.timers.erase t.kind t.key })
        return true
      else return false

/-! ## Death -/

/-- How long the remains stay, and the least and greatest respawn delay. -/
def deathTimes (r : Registry) (spawn : LiveSpawn) (p : SpawnPoint) (pool : Pool) (looted : Bool) :
    UInt32 × UInt32 × UInt32 :=
  match pool.candidate? spawn.entry with
  | some candidate =>
    let attributes := r.patches.resolve p candidate pool.template
    (attributes.corpseSecs looted, attributes.spawnTimeRange)
  | none =>
    (pool.template.corpseTimes.secs looted,
      pool.template.spawnTimes.minSecs, pool.template.spawnTimes.maxSecs)

/-- Turns the entity of a point into remains and frees the point. -/
def bury (r : Registry) (handle : EntityHandle) (spawn : LiveSpawn) (corpseSecs : Nat) : Registry :=
  let remains : Remains := ⟨handle, spawn.pool, r.now.plus corpseSecs⟩
  { r with
    points := r.points.modify spawn.point (fun p => (p.detach.retire remains).release)
    forest := r.forest.lose spawn.pool
    live := r.live.erase handle }

/-- The delay before a replacement: the fast one while the root is below its
minimum, else a draw from the range, else the default. -/
def respawnDelay (root : PoolId) (fastSecs minSecs maxSecs : Nat) : Action Nat := do
  let r ← get
  if 0 < fastSecs && r.forest.hasRoom root .minimum then return fastSecs
  if 0 < maxSecs || 0 < minSecs then
    choose (fun random => .ok (RandomSource.natIn minSecs (max maxSecs minSecs) random))
  else return r.config.defaultRespawnSecs.toNat

/-- An entity died. False if the registry does not know it. -/
def handleDeath (handle : EntityHandle) (looted : Bool) : Action Bool := do
  let r ← get
  match r.live.get? handle with
  | none => return false
  | some spawn =>
    match r.points.get? spawn.point, r.forest.get? spawn.pool with
    | some p, some pool =>
      let (corpseSecs, minSecs, maxSecs) := r.deathTimes spawn p pool looted
      set (r.bury handle spawn corpseSecs.toNat)
      let delay ← respawnDelay pool.root pool.template.spawnTimes.fastSecs.toNat minSecs.toNat
        maxSecs.toNat
      let due := r.now.plus delay
      modify (fun r =>
        { r with
          timers := r.timers.add
            ⟨spawn.kind, spawn.pool, pool.root, spawn.point, due, due, p.grid, p.zone⟩ false })
      let _ ← expedite spawn.kind spawn.pool spawn.point
      return true
    | _, _ =>
      set { r with live := r.live.erase handle }
      return false

/-! ## Disappearance -/

def unlink (r : Registry) (handle : EntityHandle) (spawn : LiveSpawn) : Registry :=
  { r.modifyPoint spawn.point (·.detach) with live := r.live.erase handle }

/-- An entity left the world without dying. In bulk its reservation and the
counts stay. False if the registry does not know it. -/
def handleDespawn (handle : EntityHandle) (bulk : Bool) : Action Bool := do
  let r ← get
  match r.live.get? handle with
  | none => return false
  | some spawn =>
    set (r.unlink handle spawn)
    if !r.points.contains spawn.point then return false
    if bulk then return true
    modify (fun r => r.release spawn.point spawn.pool)
    let _ ← expedite spawn.kind spawn.pool spawn.point
    return true

/-- Takes entities out of the world, their reservations staying, and counts those it knew. -/
def unloadAll (r : Registry) (handles : List EntityHandle) : Nat × Registry :=
  handles.foldl (fun (unloaded, r) handle =>
    match r.live.get? handle with
    | none => (unloaded, r)
    | some spawn =>
      let r := r.unlink handle spawn
      (unloaded + 1, { r with host := r.host.destroy handle })) (0, r)

/-- Destroys the entities of a grid that is going to be unloaded. -/
def onGridUnloaded (r : Registry) (grid : GridId) : Nat × Registry :=
  r.unloadAll ((r.points.values.filter (fun p => p.grid == grid)).filterMap (·.entity))

/-- Destroys the remains whose time has run out, and counts them. -/
def expireRemains (r : Registry) : Nat × Registry :=
  r.clearRemains (fun x => decide (x.expires ≤ r.now))

/-! ## Timers -/

/-- Drops timers, all of them or none. -/
def clearRespawns (r : Registry) (filter : TimerFilter) :
    Except PoolError (List Timer × Registry) :=
  match r.timers.take filter with
  | .error e => .error e
  | .ok (dropped, timers) => .ok (dropped, { r with timers := timers })

/-- Puts a stored timer back, unless its key has one that is due as early. The
root and the region are those of the pool and the point as they are now. -/
def restoreTimer (r : Registry) (pool : PoolId) (point : PointId) (due : Timestamp) :
    Except PoolError (Bool × Registry) :=
  match r.forest.get? pool with
  | none => .error (.unknownPool pool)
  | some n =>
    match r.points.get? point with
    | none => .error (.unknownPoint point)
    | some p =>
      let t : Timer := ⟨n.kind, pool, n.root, point, due, due, p.grid, p.zone⟩
      .ok (r.timers.accepts t false, { r with timers := r.timers.add t false })

/-- Runs timers in order, each once: a timer that a replacement has used up
meanwhile is passed over. Counts the entities spawned. -/
def runTimers : List Timer → Action Nat
  | [] => return 0
  | t :: rest => do
    let r ← get
    match r.timers.get? t.kind t.key with
    | none => runTimers rest
    | some _ =>
      set { r with timers := r.timers.erase t.kind t.key }
      let spawned ← spawnPool t.root 1
      return spawned + (← runTimers rest)

/-- Runs the due timers of a zone, unless it was scanned too recently. -/
def respawnZone (zone : ZoneId) : Action Nat := do
  let r ← get
  let (due, timers) := r.timers.scanZone zone r.now
  set { r with timers := timers }
  runTimers (due.getD [])

/-- Runs the due timers of a grid, unless it was scanned too recently. -/
def respawnGrid (grid : GridId) : Action Nat := do
  let r ← get
  let (due, timers) := r.timers.scanGrid grid r.now
  set { r with timers := timers }
  runTimers (due.getD [])

def respawnDue : Action Nat := do
  let r ← get
  runTimers (r.timers.due r.now)

end SpawnForest.Registry
