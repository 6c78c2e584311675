import SpawnForest.Console.Execute
import SpawnForest.Report.Writer

/-!
# Writing commands and outputs

The documents that `SpawnForest.Console.Reader` reads.
-/

namespace SpawnForest.Console

open Json (ofString)

def Command.toJson : Command → Json
  | list map => .record [("command", ofString "list"), ("map", map.toJson)]
  | onPool verb map pool =>
    .record [("command", ofString verb.name), ("map", map.toJson), ("pool", pool.toJson)]

def Output.toJson : Output → Json
  | roots pools =>
    .record [("kind", ofString "roots"), ("pools", .ofList PoolSummary.toJson pools)]
  | dump d => .record [("kind", ofString "dump"), ("dump", d.toJson)]
  | changed action pool count =>
    .record [("kind", ofString "changed"), ("action", ofString action), ("pool", pool.toJson),
      ("count", .ofNat count)]

end SpawnForest.Console
