import SpawnForest.Plan.Writer
import SpawnForest.Timer.Basic

/-!
# Writing timers

The document that `SpawnForest.Timer.Reader` reads.
-/

namespace SpawnForest

def Timer.toJson (t : Timer) : Json :=
  .record [("kind", t.kind.toJson), ("pool_id", t.pool.toJson), ("root_id", t.root.toJson),
    ("point_id", t.point.toJson), ("respawn_time", t.due.toJson),
    ("original_respawn_time", t.firstDue.toJson), ("grid_id", t.grid.toJson),
    ("zone_id", t.zone.toJson)]

end SpawnForest
