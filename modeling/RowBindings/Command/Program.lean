import RowBindings.Catalog.Session
import RowBindings.Command.Directory
import RowBindings.Command.Help
import RowBindings.Connection.VariableFile
import RowBindings.Generation.Package
import RowBindings.Source.File
import RowBindings.TypeMap.Reader

/-!
# The program

What the program does with its arguments: the stages from the settings of the connection to the
generated file. Each stage can fail, and then no later one is reached. The program is a function of
its surroundings; what it changes in them is part of its outcome.
-/

namespace RowBindings.Command

open Catalog Connection Generation TypeMap

/-- The surroundings of the program. -/
structure Surroundings where
  vars : Variables := []
  files : Directory := {}
  /-- The session that settings lead to, if they lead to one. -/
  connect : Settings → Option Session := fun _ => none

/-- Why there are no rules. -/
inductive RulesError
  | unreadable (path : String) (cause : FileError)
  | invalid (cause : RuleError)
  deriving DecidableEq, Repr

/-- What is said about the error. -/
def RulesError.message : RulesError → String
  | unreadable path cause => "Failed to read " ++ path ++ ": " ++ cause.message
  | invalid cause => cause.message

/-- Why the program fails. -/
inductive Failure
  | settings (cause : SettingsError)
  | rules (path : String) (cause : RulesError)
  | template (path : String) (cause : FileError)
  | enumTemplate (path : String) (cause : FileError)
  /-- No session; the settings are known as they are shown. -/
  | connection (shown : String)
  | catalog (cause : QueryFailure)
  | generation (cause : Generation.Failure)
  | output (path : String) (cause : FileError)
  deriving DecidableEq, Repr

namespace Failure

/-- What is said first about the failure. -/
def message : Failure → String
  | settings _ => "Failed to load database configuration"
  | rules path _ => "Failed to load type map " ++ path
  | template path _ => "Failed to read template " ++ path
  | enumTemplate path _ => "Failed to read enum template " ++ path
  | connection shown => "Failed to connect to PostgreSQL at " ++ shown
  | catalog _ | generation _ => "Failed to generate code"
  | output path _ => "Failed to write " ++ path

/-- What is said before an error in what the user has written. -/
def configurationError (text : String) : String := "Configuration error: " ++ text

/-- What is said about the cause of the failure. -/
def cause : Failure → String
  | settings cause => configurationError cause.message
  | rules _ cause => configurationError cause.message
  | template _ cause | enumTemplate _ cause => cause.message
  | connection _ => "Failed to connect to database"
  | catalog cause => "Failed to introspect schema '" ++ cause.schema ++ "': " ++ cause.message
  | generation cause => "Template rendering failed for '" ++ cause.item ++ "': " ++ cause.message
  | output _ cause => "Failed to write output: " ++ cause.message

end Failure

/-! ## Stages -/

/-- The settings of the connection: from the variables, after a file that adds to them, if it is
there. -/
def loadSettings (a : Arguments) (s : Surroundings) : Except SettingsError Settings := do
  let vars ← match a.envFile with
    | some path =>
      if s.files.has path then
        match (s.files.read path).toOption.bind (VariableFile.load s.vars) with
        | some vars => pure vars
        | none => throw (.unreadable path)
      else pure s.vars
    | none => pure s.vars
  Settings.ofVariables vars

/-- The rules for types: those of a file, or the standard ones. -/
def loadRules (a : Arguments) (files : Directory) : Except Failure RuleSet :=
  match a.typeMap with
  | some path =>
    match files.read path with
    | .error e => .error (.rules path (.unreadable path e))
    | .ok text => (RuleSet.ofText text).mapError fun e => .rules path (.invalid e)
  | none => .ok .builtin

/-- The text of a file, if one is named. -/
def loadText (path : Option String) (files : Directory) (failure : String → FileError → Failure) :
    Except Failure (Option String) :=
  match path with
  | some path => ((files.read path).mapError (failure path)).map some
  | none => .ok none

/-- What is generated: what the arguments say and the files they name. -/
def loadConfig (a : Arguments) (files : Directory) : Except Failure Config := do
  let rules ← loadRules a files
  let custom ← loadText a.template files .template
  let customEnum ← loadText a.enumTemplate files .enumTemplate
  let keyPolicy : KeyPolicy := { identityIsGenerated := a.identityAsKey }
  return {
    schema := a.schema
    package := a.package
    rules
    keyPolicy := match a.keyTypes with
      | some types => { keyPolicy with generatedTypes := types }
      | none => keyPolicy
    selection := { included := a.tables, excluded := a.exclude }
    deprecated := a.deprecated.getD []
    custom
    customEnum
    includeEnums := !a.noEnums
    format := !a.noFormat }

/-- The generated file for the schema that a session reads, and the queries sent. -/
def generateFrom (c : Config) (s : Session) : Except Failure String × List Query :=
  let (schema, queries) := s.readSchema c.schema
  let code := match schema with
    | .error e => .error (.catalog e)
    | .ok schema => (c.generate {} Source.format schema).mapError .generation
  (code, queries)

/-! ## Outcome -/

/-- What the program leaves behind. -/
structure Outcome where
  /-- The exit status. -/
  status : Nat := 0
  /-- What is on standard output. -/
  output : String := ""
  files : Directory
  failure : Option Failure := none
  /-- The queries sent, in order. -/
  queries : List Query := []

/-- The status of a failure, and of arguments that cannot be read. -/
def failureStatus : Nat := 1

@[inherit_doc failureStatus]
def usageStatus : Nat := 2

namespace Outcome

/-- The outcome of a failure: nothing has changed. -/
def failed (s : Surroundings) (f : Failure) (queries : List Query) : Outcome where
  status := failureStatus
  files := s.files
  failure := some f
  queries := queries

/-- The outcome of generated text: it is written to a file if one is named, else to the output. -/
def finished (a : Arguments) (s : Surroundings) (code : String) (queries : List Query) : Outcome :=
  match a.output with
  | none => { output := code, files := s.files, queries }
  | some path =>
    match s.files.write path code with
    | .ok files => { files, queries }
    | .error e => failed s (.output path e) queries

end Outcome

/-- Carries out arguments. -/
def perform (a : Arguments) (s : Surroundings) : Outcome :=
  match (loadSettings a s).mapError Failure.settings with
  | .error f => .failed s f []
  | .ok settings =>
    match loadConfig a s.files with
    | .error f => .failed s f []
    | .ok config =>
      match s.connect settings with
      | none => .failed s (.connection settings.redacted) []
      | some session =>
        match generateFrom config session with
        | (.error f, queries) => .failed s f queries
        | (.ok code, queries) => .finished a s code queries

/-- The program. -/
def run (texts : List String) (s : Surroundings) : Outcome :=
  match Arguments.read texts with
  | .error .help => { output := helpText, files := s.files }
  | .error .version => { output := versionText, files := s.files }
  | .error _ => { status := usageStatus, files := s.files }
  | .ok a => perform a s

end RowBindings.Command
