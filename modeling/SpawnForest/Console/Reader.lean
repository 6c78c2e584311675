import SpawnForest.Console.Execute
import SpawnForest.Report.Reader

/-!
# Reading commands and outputs

Commands and their outputs as documents, marked by the members `command` and
`kind`.
-/

namespace SpawnForest.Console

open Json

def Command.ofJson? (value : Json) : Option Command := do
  let (mark, rest) ← value.tagged? "command"
  if mark == "list" then
    let f ← rest.fields? ["map"]
    return .list (← f.required "map" Id.ofJson?)
  else
    let verb ← Verb.ofName? mark
    let f ← rest.fields? ["map", "pool"]
    return .onPool verb (← f.required "map" Id.ofJson?) (← f.required "pool" Id.ofJson?)

def Output.ofJson? (value : Json) : Option Output := do
  let (mark, rest) ← value.tagged? "kind"
  match mark with
  | "roots" =>
    let f ← rest.fields? ["pools"]
    return .roots (← f.required "pools" (listOf? (PoolSummary.read? SpawnKind.ofKept?)))
  | "dump" =>
    let f ← rest.fields? ["dump"]
    return .dump (← f.required "dump" (PoolDump.read? SpawnKind.ofKept?))
  | "changed" =>
    let f ← rest.fields? ["action", "pool", "count"]
    return .changed (← f.required "action" string?) (← f.required "pool" Id.ofJson?)
      (← f.required "count" entityCount?)
  | _ => none

end SpawnForest.Console
