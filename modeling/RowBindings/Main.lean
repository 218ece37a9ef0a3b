import RowBindings.Command.Program

/-!
# Entry point

Collects the surroundings of the process, runs the program in them, and carries out what it leaves
behind. No database client is part of the library, so no settings lead to a session here.
-/

namespace RowBindings.Main

open Command Connection

/-- What stands at a path, if anything does. -/
def entryAt? (path : String) : IO (Option Entry) := do
  if ← (System.mkFilePath [path]).isDir then return some .directory
  try return some (.file (String.fromUTF8? (← IO.FS.readBinFile path)))
  catch _ => return none

/-- What stands at the named paths and on the way to them. -/
def filesAt (texts : List String) : IO Directory := do
  let paths := texts.flatMap fun text => (Path.ofText text).stages
  let found ← paths.filterMapM fun path => do return (← entryAt? path.text).map (path, ·)
  return { entries := found }

/-- The variables of these names that are set. -/
def variablesOf (names : List String) : IO Variables :=
  names.filterMapM fun name => do return (← IO.getEnv name).map (name, ·)

/-- The surroundings that matter for these arguments. -/
def surroundingsOf (texts : List String) : IO Surroundings := do
  match Arguments.read texts with
  | .error _ => return {}
  | .ok a =>
    let files ← filesAt a.paths
    let references := match a.envFile.map files.read with
      | some (.ok text) => VariableFile.referenceNames text
      | _ => []
    return { vars := ← variablesOf (Settings.variableNames ++ references), files }

/-- Runs the program with arguments; the result is the exit status. -/
def carryOut (texts : List String) : IO UInt32 := do
  let surroundings ← surroundingsOf texts
  let outcome := run texts surroundings
  IO.print outcome.output
  for (path, content) in surroundings.files.changes outcome.files do
    IO.FS.writeFile path.text content
  if outcome.status = usageStatus then IO.eprint usageText
  if let some failure := outcome.failure then
    IO.eprintln (failure.message ++ ": " ++ failure.cause)
  return UInt32.ofNat outcome.status

end RowBindings.Main

/-- Runs the program. -/
def main (texts : List String) : IO UInt32 :=
  RowBindings.Main.carryOut texts
