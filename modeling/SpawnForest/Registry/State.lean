import SpawnForest.Digest
import SpawnForest.Forest.Writer
import SpawnForest.Json.Printer
import SpawnForest.Registry.Removal
import SpawnForest.Timer.Writer

/-!
# The text of a registry's state

Two registries are in the same state when this text is the same: counts and
switches of every pool, reservation, entity and number of remains of every
point, every timer, and the table of live entities, all by ascending number.
What operators compare is the digest of the text.
-/

namespace SpawnForest

def LiveSpawn.toJson (s : LiveSpawn) : Json :=
  .record [("kind", s.kind.toJson), ("pool_id", s.pool.toJson), ("point_id", s.point.toJson),
    ("entry", .ofNat s.entry.toNat)]

namespace Registry

def stateJson (r : Registry) : Json :=
  .record [
    ("map_id", r.map.toJson),
    ("pools", .list (r.forest.all.map fun p =>
      .list [p.id.toJson, .ofNat p.ownCount, .ofNat p.totalCount, .bool p.active])),
    ("points", .list (r.points.values.map fun p =>
      .list [p.id.toJson, .ofOption Reservation.toJson p.reservation,
        .ofOption EntityHandle.toJson p.entity, .ofNat p.remains.length])),
    ("timers", .list (r.timers.all.map Timer.toJson)),
    ("live", .list (r.live.entries.map fun (h, s) => .list [h.toJson, s.toJson]))]

def stateText (r : Registry) : String := r.stateJson.compact

def stateHash (r : Registry) : String := Digest.hex r.stateText

end Registry

end SpawnForest
