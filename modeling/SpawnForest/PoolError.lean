import SpawnForest.Ident
import SpawnForest.Text.Numeral

/-!
# Errors of pool operations

Running out of room, of points or of candidates is an ordinary outcome and no
error. An error is a request that names something that is not there, or that
cannot be understood; it changes nothing.
-/

namespace SpawnForest

inductive PoolError where
  /-- A candidate was given to a pool that has children; loading ends here. -/
  | candidateOnGroup (pool : PoolId) (entry : UInt32)
  | unknownPool (pool : PoolId)
  | unknownPoint (point : PointId)
  /-- A removal of timers named none or several of pool, grid and zone. -/
  | ambiguousFilter (given : Nat)
deriving DecidableEq

def PoolError.message : PoolError → String
  | candidateOnGroup pool entry =>
    "pool " ++ pool.display ++ " has child pools and cannot hold candidate item "
      ++ Text.decimal entry.toNat
  | unknownPool pool => "pool " ++ pool.display ++ " does not exist"
  | unknownPoint point => "spawn point " ++ point.display ++ " does not exist"
  | ambiguousFilter given =>
    "respawn filter must name exactly one of pool, grid or zone, got " ++ Text.decimal given

end SpawnForest
