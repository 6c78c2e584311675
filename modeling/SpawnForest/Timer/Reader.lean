import SpawnForest.Plan.Reader
import SpawnForest.Timer.Basic

/-!
# Reading timers

The document of one timer, every field of it required.
-/

namespace SpawnForest

def Timer.ofJson? (value : Json) : Option Timer := do
  let f ← value.fields? ["kind", "pool_id", "root_id", "point_id", "respawn_time",
    "original_respawn_time", "grid_id", "zone_id"]
  let kind ← f.required "kind" SpawnKind.ofJson?
  let pool ← f.required "pool_id" Id.ofJson?
  let root ← f.required "root_id" Id.ofJson?
  let point ← f.required "point_id" Id.ofJson?
  let due ← f.required "respawn_time" Timestamp.ofJson?
  let firstDue ← f.required "original_respawn_time" Timestamp.ofJson?
  let grid ← f.required "grid_id" Id.ofJson?
  let zone ← f.required "zone_id" Id.ofJson?
  return ⟨kind, pool, root, point, due, firstDue, grid, zone⟩

end SpawnForest
