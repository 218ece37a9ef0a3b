import RowBindings.Command.Arguments

/-!
# Help text

The texts that the program prints about itself: its name and version, and a line for each option.
-/

namespace RowBindings.Command

/-- The name of the program. -/
def programName : String := "pgdao"

/-- The version of the program. -/
def programVersion : String := "0.1.0"

/-- The text about the version. -/
def versionText : String := programName ++ " " ++ programVersion ++ "\n"

namespace Switch

/-- The name of the value in the help text. -/
def valueName (s : Switch) : String :=
  s.long.map fun c => if c = '-' then '_' else c.toUpper

/-- What is written on the command line for the option. -/
def usage (s : Switch) : String :=
  let letter := match s.short with
    | some c => "-" ++ c.toString ++ ", "
    | none => "    "
  let value := match s.choice with
    | .field _ => " <" ++ s.valueName ++ ">"
    | .flag .verbose => "..."
    | .flag _ => ""
  "  " ++ letter ++ "--" ++ s.long ++ value

/-- The line of the option in the help text, the description starting behind a given width. -/
def line (width : Nat) (s : Switch) : String :=
  s.usage ++ String.ofList (List.replicate (width + 2 - s.usage.length) ' ') ++ s.about ++ "\n"

end Switch

/-- How the program is called. -/
def usageText : String := "Usage: " ++ programName ++ " [OPTIONS]\n"

/-- The help text. -/
def helpText : String :=
  let width := options.foldl (fun n s => max n s.usage.length) 0
  usageText ++ "\nOptions:\n" ++
    String.join (options.map (·.line width))

end RowBindings.Command
