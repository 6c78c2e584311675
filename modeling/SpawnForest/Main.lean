import SpawnForest.Simulation

/-!
# The command line program

Reads the world's document, runs the simulation, and prints and stores what it
gives. Errors go to the error stream behind `Error: `.
-/

namespace SpawnForest

/-- The text of a file; none if it cannot be read as text. -/
def readDocument (path : String) : IO (Option String) := do
  try
    return some (← IO.FS.readFile path)
  catch _ =>
    return none

def reportFailure (message : String) : IO UInt32 := do
  IO.eprintln ("Error: " ++ message)
  return 1

def runProgram (arguments : List String) : IO UInt32 := do
  let document ←
    match Simulation.Options.ofArguments arguments with
    | .ok o => readDocument o.world
    | .error _ => pure none
  let outcome := Simulation.run arguments (fun _ => document)
  IO.print outcome.printed
  match outcome.ending with
  | .done => return 0
  | .failed failure => reportFailure failure.message
  | .broken fault =>
    IO.eprintln fault.message
    return 101
  | .write path content printed =>
    try
      IO.FS.writeFile path content
    catch _ =>
      return ← reportFailure (Simulation.Failure.writing path).message
    IO.print printed
    return 0

end SpawnForest

def main (arguments : List String) : IO UInt32 := SpawnForest.runProgram arguments
