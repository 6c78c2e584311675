import SpawnForest.Plan.Writer
import SpawnForest.Report.Basic

/-!
# Writing reports

The reports as documents, and the report of a load.
-/

namespace SpawnForest

open Json (ofUInt32 ofString)

def PoolSummary.toJson (s : PoolSummary) : Json :=
  .record [("pool_id", s.pool.toJson), ("description", ofString s.description),
    ("kind", s.kind.toJson), ("min_limit", ofUInt32 s.minLimit), ("max_limit", ofUInt32 s.maxLimit),
    ("spawned", .ofNat s.spawned), ("active", .bool s.active), ("children", .ofNat s.children),
    ("pending_respawns", .ofNat s.pending)]

def OccupiedPoint.toJson (o : OccupiedPoint) : Json :=
  .record [("point_id", o.point.toJson), ("entry", ofUInt32 o.entry),
    ("entity", .ofOption Json.ofNat o.entity)]

def DumpEntry.members (e : DumpEntry) : List (String × Json) :=
  [("pool_id", e.pool.toJson), ("description", ofString e.description), ("kind", e.kind.toJson),
    ("min_limit", ofUInt32 e.minLimit), ("max_limit", ofUInt32 e.maxLimit),
    ("chance", e.chance.toJson), ("spawned", .ofNat e.spawned), ("min_spawnable", .ofNat e.minRoom),
    ("max_spawnable", .ofNat e.maxRoom), ("occupied", .ofList OccupiedPoint.toJson e.occupied)]

namespace PoolDump

mutual

def toJson : PoolDump → Json
  | node entry children => .record (entry.members ++ [("children", .list (allToJson children))])

def allToJson : List PoolDump → List Json
  | [] => []
  | d :: rest => toJson d :: allToJson rest

end

end PoolDump

def LoadReport.toJson (r : LoadReport) : Json :=
  .record [("templates", .ofNat r.templates), ("edges", .ofNat r.edges),
    ("spawn_points", .ofNat r.points), ("assignments", .ofNat r.assignments),
    ("items", .ofNat r.candidates), ("overrides", .ofNat r.patches), ("skipped", .ofNat r.skipped),
    ("leaves_without_items", .ofNat r.leavesWithoutCandidates)]

end SpawnForest
