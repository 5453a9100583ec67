import Entity.Command.Report

/-!
# The program

Reads the files that a command line names, and carries out what its report says.
-/

namespace Entity

/-- The text of a file, if it can be read. -/
def readFile? (p : Path) : IO (Option String) := do
  try return some (← IO.FS.readFile p.toText) catch _ => return none

/-- The tree of the files that a command line may read. -/
def readFiles (here : Path) (arguments : List String) : IO Files := do
  let found ← (Command.readPaths arguments).filterMapM fun p => do
    return (← readFile? p).map fun text => (p.toText, text)
  return .ofList here found

/-- The variables of the environment that matter. -/
def readEnvironment : IO (List (String × String)) :=
  baseVariables.filterMapM fun v => do
    return (← IO.getEnv v.name).map fun value => (v.name, value)

/-- Write a file; folders on the way are made. -/
def writeFile (p : Path) (text : String) : IO Unit := do
  IO.FS.createDirAll { p with names := p.names.dropLast }.toText
  IO.FS.writeFile p.toText text

end Entity

open Entity in
/-- Carry out a command line. -/
def main (arguments : List String) : IO UInt32 := do
  let here := Path.ofText (← IO.currentDir).toString
  let s := { files := ← readFiles here arguments, environment := ← readEnvironment }
  let (report, warnings) := Command.run s arguments
  for message in withoutRepeats (warnings.map Warning.message) do IO.eprintln message
  if let some (path, text) := report.written then writeFile path text
  IO.print report.output
  IO.eprint report.errors
  if let some failure := report.failure then IO.eprintln failure.message
  return report.exitCode.toUInt32
