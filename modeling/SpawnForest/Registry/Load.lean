import SpawnForest.Registry.Basic

/-!
# Loading a registry

A registry is built row by row. A row that names something missing, repeats
something or breaks the forest is skipped and counted; the rest of the rows go
on. Only one mistake ends the loading: a candidate for a pool that has
children, whatever else may be wrong with that row.

The sorts of rows come in a fixed order, so that each sort finds what it names:
points, templates, edges, assignments, candidates, patches. The roots are
settled once the edges are known, and templates are handed down at the end.
-/

namespace SpawnForest.Registry

/-- Counts a row that was not accepted. -/
def skip (r : Registry) : Registry :=
  { r with report := { r.report with skipped := r.report.skipped + 1 } }

/-- The first row of a point counts. -/
def addPoint (r : Registry) (row : PointRow) : Registry :=
  if r.points.contains row.point then r.skip
  else
    let region := Region.ofPosition row.position
    let point := SpawnPoint.vacant row.point r.map row.position row.rotation region.grid region.zone
    { r with
      points := r.points.insert row.point point
      report := { r.report with points := r.report.points + 1 } }

/-- The first row of a pool with a known type code counts. -/
def addTemplate (r : Registry) (row : TemplateRow) : Registry :=
  match (row.template? r.map).bind (fun t => r.forest.insert? (.ofTemplate t)) with
  | none => r.skip
  | some forest =>
    { r with
      forest := forest
      report := { r.report with templates := r.report.templates + 1 } }

def addEdge (r : Registry) (row : EdgeRow) : Registry :=
  match r.forest.link row.pool row.child row.chance with
  | .error _ => r.skip
  | .ok forest =>
    { r with
      forest := forest
      report := { r.report with edges := r.report.edges + 1 } }

def isAssigned (r : Registry) (point : PointId) : Bool :=
  r.forest.all.any (fun pool => pool.points.contains point)

/-- A point goes to the first existing pool that a row gives it to. -/
def addAssignment (r : Registry) (row : AssignmentRow) : Registry :=
  if !r.points.contains row.point || r.isAssigned row.point || !r.forest.contains row.pool then
    r.skip
  else
    { r with
      forest := r.forest.modify row.pool (fun p => { p with points := p.points ++ [row.point] })
      report := { r.report with assignments := r.report.assignments + 1 } }

/-- A leaf takes candidates of its own kind, one for each entry. -/
def addCandidate (r : Registry) (c : Candidate) : Except PoolError Registry :=
  match r.forest.get? c.pool with
  | none => .ok r.skip
  | some pool =>
    if !pool.isLeaf then .error (.candidateOnGroup c.pool c.entry)
    else if pool.kind ≠ c.kind || (pool.candidate? c.entry).isSome then .ok r.skip
    else .ok
      { r with
        forest := r.forest.modify c.pool (fun p => { p with candidates := p.candidates ++ [c] })
        report := { r.report with candidates := r.report.candidates + 1 } }

def patchCandidate? (entry : UInt32) (patch : Patch) : List Candidate → Option (List Candidate)
  | [] => none
  | c :: rest =>
    if c.entry = entry then (c.patched? patch).map (· :: rest)
    else (patchCandidate? entry patch rest).map (c :: ·)

/-- Puts a patch where its scope says; none if there is no such place or it is
of the other kind. -/
def applyPatch? (r : Registry) (scope : PatchScope) (patch : Patch) : Option Registry :=
  match scope with
  | .pair point entry =>
    if r.points.contains point then some { r with patches := r.patches.insert point entry patch }
    else none
  | .candidate pool entry =>
    (r.forest.get? pool).bind fun p =>
      (patchCandidate? entry patch p.candidates).map fun candidates =>
        { r with forest := r.forest.modify pool (fun p => { p with candidates := candidates }) }
  | .point point =>
    if r.points.contains point then some (r.modifyPoint point (·.patched patch)) else none

def addPatch (r : Registry) (scope : PatchScope) (patch : Patch) : Registry :=
  match r.applyPatch? scope patch with
  | none => r.skip
  | some r => { r with report := { r.report with patches := r.report.patches + 1 } }

/-! ## All rows -/

/-- The candidates that the rows name, creatures first. -/
def candidates (rows : PoolRows) : List Candidate :=
  rows.creatures.map CreatureRow.candidate ++ rows.gameObjects.map GameObjectRow.candidate

/-- The patches that the rows name, creatures first. -/
def scopedPatches (rows : PoolRows) : List (PatchScope × Patch) :=
  rows.creaturePatches.map (fun row => (row.scope, .creature row.patch))
    ++ rows.gameObjectPatches.map (fun row => (row.scope, .gameObject row.patch))

/-- The points, the pools and the edges between them, with their roots settled. -/
def addStructure (r : Registry) (rows : PoolRows) : Registry :=
  let r := rows.points.foldl addPoint r
  let r := rows.templates.foldl addTemplate r
  let r := rows.edges.foldl addEdge r
  { r with forest := r.forest.settleRoots }

/-- Hands templates down and counts the leaves that can spawn nothing. -/
def finish (r : Registry) : Registry :=
  let forest := r.forest.trickle
  let bare := forest.all.filter (fun p => p.isLeaf && p.candidates.isEmpty)
  { r with
    forest := forest
    report := { r.report with leavesWithoutCandidates := bare.length } }

def load (map : MapId) (rows : PoolRows) (host : Host) (config : RegistryConfig) :
    Except PoolError Registry := do
  let r := (empty map host config).addStructure rows
  let r := rows.assignments.foldl addAssignment r
  let r ← (candidates rows).foldlM addCandidate r
  let r := (scopedPatches rows).foldl (fun r (scope, patch) => r.addPatch scope patch) r
  return r.finish

end SpawnForest.Registry
