import SpawnForest.Registry.Load

/-!
# From reservations to entities

A spawn first reserves the point and counts the entity. The entity itself is
made only where the grid is loaded; elsewhere the reservation waits until the
grid is. A spawn that the host refuses is taken back completely.
-/

namespace SpawnForest.Registry

/-- What the host is asked for at a reserved point. -/
def request? (r : Registry) (p : SpawnPoint) : Option SpawnRequest := do
  let held ← p.reservation
  let pool ← r.forest.get? held.pool
  let candidate ← pool.candidate? held.entry
  return {
    kind := held.kind
    pool := held.pool
    point := p.id
    entry := held.entry
    position := p.position
    attributes := r.patches.resolve p candidate pool.template }

/-- Makes the entity that a point is reserved for. None if there is no such
reservation or the host refuses; a point that has its entity is left alone. -/
def materialize? (r : Registry) (id : PointId) : Option Registry :=
  match r.points.get? id with
  | none => none
  | some p =>
    match p.reservation with
    | none => none
    | some _ =>
      if p.entity.isSome then some r
      else
        match r.request? p with
        | none => none
        | some request =>
          match r.host.instantiate? request with
          | none => none
          | some (handle, host) =>
            let r := r.modifyPoint id (·.attach handle)
            some { r with
              host := host
              live := r.live.insert handle ⟨request.kind, request.pool, id, request.entry⟩ }

def reserve (r : Registry) (id : PointId) (held : Reservation) : Registry :=
  let r := r.modifyPoint id (·.reserve held)
  { r with forest := r.forest.gain held.pool }

/-- Takes a reservation back. -/
def release (r : Registry) (id : PointId) (pool : PoolId) : Registry :=
  let r := r.modifyPoint id (·.release)
  { r with forest := r.forest.lose pool }

/-- Whether a pool has a candidate of some kind under an entry number. -/
def hasCandidate (r : Registry) (kind : SpawnKind) (pool : PoolId) (entry : UInt32) : Bool :=
  match (r.forest.get? pool).bind (·.candidate? entry) with
  | some candidate => candidate.kind == kind
  | none => false

/-- Spawns one entry of a pool at one point: false if there is no such
candidate or point, or the host refuses. A point that is already reserved is a
fault. -/
def spawnAt (kind : SpawnKind) (pool : PoolId) (entry : UInt32) (point : PointId) :
    Action Bool := do
  let r ← get
  if !r.hasCandidate kind pool entry then return false
  match r.points.get? point with
  | none => return false
  | some p =>
    match p.reservation with
    | some holder => throw (.alreadyReserved point holder)
    | none =>
      let reserved := r.reserve point ⟨pool, entry, kind⟩
      if !r.host.isLoadedAt p.position then
        set reserved
        return true
      match reserved.materialize? point with
      | some made =>
        set made
        return true
      | none =>
        set (reserved.release point pool)
        return false

/-- Makes the entity of a reservation whose grid has been loaded since. -/
def spawnPending? (r : Registry) (id : PointId) : Option Registry :=
  match r.points.get? id with
  | none => none
  | some p =>
    if p.isPending && r.host.isLoadedAt p.position then r.materialize? id else none

/-- Makes the waiting entities among some points, and counts them. -/
def spawnPendingAll (r : Registry) (ids : List PointId) : Nat × Registry :=
  ids.foldl (fun (made, r) id =>
    match r.spawnPending? id with
    | some r => (made + 1, r)
    | none => (made, r)) (0, r)

/-- Makes the waiting entities of a grid that has been loaded. -/
def onGridLoaded (r : Registry) (grid : GridId) : Nat × Registry :=
  r.spawnPendingAll ((r.points.values.filter (fun p => p.grid == grid && p.isPending)).map (·.id))

end SpawnForest.Registry
