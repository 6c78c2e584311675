import SpawnForest.SpawnPoint

/-!
# Faults

A fault breaks off whatever is going on. There are two: a point was to be
reserved twice, which would put two entities on one place, and a random number
was asked for from a range that has no finite width. What was done before a
fault stands.
-/

namespace SpawnForest

inductive Fault where
  /-- The point was already reserved for the holder. -/
  | alreadyReserved (point : PointId) (holder : Reservation)
  /-- The range of a draw has no finite width. -/
  | infiniteRange
deriving DecidableEq

def Fault.message : Fault → String
  | alreadyReserved point holder =>
    "spawn point " ++ point.display ++ " already reserved by Some(" ++ holder.diagnostic ++ ")"
  | infiniteRange => "range of a random number is not finite"

end SpawnForest
