/-!
# Command line

The options of the program and how they are read. An option with a value takes the rest of its
argument or the next argument; options for lists may come several times, all others once. What is
wrong with an option shows when it is complete, that is when the next one starts or none follows;
an argument that is not known is a fault at once.
-/

namespace RowBindings.Command

/-- The options with a value. -/
inductive Field
  | schema
  | package
  | output
  | envFile
  | typeMap
  | template
  | enumTemplate
  | tables
  | exclude
  | deprecated
  | keyTypes
  deriving DecidableEq, Repr

/-- The options without a value. -/
inductive Flag
  | identityAsKey
  | noEnums
  | noFormat
  | verbose
  | help
  | version
  deriving DecidableEq, Repr

/-- What an option is. -/
inductive Choice
  | field (f : Field)
  | flag (f : Flag)
  deriving DecidableEq, Repr

namespace Field

/-- Whether the value is the path of a file, which is not empty. -/
def isPath : Field → Bool
  | output | envFile | typeMap | template | enumTemplate => true
  | _ => false

/-- Whether the value is a list, its elements separated by commas. -/
def isList : Field → Bool
  | tables | exclude | deprecated | keyTypes => true
  | _ => false

end Field

/-- An option with its names and its line in the help text. -/
structure Switch where
  choice : Choice
  short : Option Char := none
  long : String
  about : String

/-- The options, in the order of the help text. -/
def options : List Switch := [
  { choice := .field .schema, long := "schema",
    about := "Database schema to introspect [default: public]" },
  { choice := .field .package, long := "package",
    about := "Package name written into the generated header [default: dao]" },
  { choice := .field .output, short := some 'o', long := "output",
    about := "Output file (default: stdout)" },
  { choice := .field .envFile, long := "env-file",
    about := "Path to .env file for connection config" },
  { choice := .field .typeMap, long := "typemap",
    about := "TOML type map replacing the built-in one" },
  { choice := .field .template, long := "template",
    about := "Custom template used for every table" },
  { choice := .field .enumTemplate, long := "enum-template",
    about := "Custom template used for every enum" },
  { choice := .field .tables, long := "tables",
    about := "Comma-separated list of tables to include (default: all)" },
  { choice := .field .exclude, long := "exclude",
    about := "Comma-separated list of tables to exclude" },
  { choice := .field .deprecated, long := "deprecated",
    about := "Comma-separated list of tables and enums to mark deprecated" },
  { choice := .field .keyTypes, long := "autogen-types",
    about := "Comma-separated DDL types treated as database generated keys" },
  { choice := .flag .identityAsKey, long := "identity-as-pk",
    about := "Treat identity columns as database generated keys" },
  { choice := .flag .noEnums, long := "no-enums", about := "Skip enum types" },
  { choice := .flag .noFormat, long := "no-format",
    about := "Emit rendered templates without formatting them" },
  { choice := .flag .verbose, short := some 'v', long := "verbose",
    about := "Verbose output (-v for debug, -vv for trace)" },
  { choice := .flag .help, short := some 'h', long := "help", about := "Print help" },
  { choice := .flag .version, short := some 'V', long := "version", about := "Print version" }]

/-- The option of a name. -/
def named? (name : String) : Option Choice :=
  (options.find? (·.long == name)).map (·.choice)

/-- The option of a letter. -/
def lettered? (letter : Char) : Option Choice :=
  (options.find? (·.short == some letter)).map (·.choice)

/-- Why the arguments are not carried out. -/
inductive UsageError
  /-- A value is missing, or it is empty where it must not be. -/
  | invalidValue
  | unknownArgument
  /-- An option is there twice that may be there once. -/
  | conflict
  /-- There is a value for an option without one. -/
  | tooManyValues
  | help
  | version
  deriving DecidableEq, Repr

/-- What the arguments say. -/
structure Arguments where
  schema : String := "public"
  package : String := "dao"
  output : Option String := none
  envFile : Option String := none
  typeMap : Option String := none
  template : Option String := none
  enumTemplate : Option String := none
  tables : Option (List String) := none
  exclude : Option (List String) := none
  deprecated : Option (List String) := none
  keyTypes : Option (List String) := none
  identityAsKey : Bool := false
  noEnums : Bool := false
  noFormat : Bool := false
  verbosity : Nat := 0
  deriving DecidableEq, Repr

/-- The paths of files in arguments. -/
def Arguments.paths (a : Arguments) : List String :=
  [a.output, a.envFile, a.typeMap, a.template, a.enumTemplate].filterMap id

/-- Arguments being read. -/
structure Progress where
  /-- The values of the options so far, in order. -/
  values : List (Field × List String) := []
  /-- The options without a value so far. -/
  flags : List Flag := []
  /-- The last option, if it is not complete, with its value, if it has one yet. -/
  pending : Option (Field × Option String) := none

namespace Progress

/-- The values of an option, if it is there. -/
def values? (p : Progress) (f : Field) : Option (List String) :=
  let all := p.values.filter (·.1 = f)
  if all.isEmpty then none else some (all.flatMap (·.2))

/-- Completes an option with a value. -/
def put (p : Progress) (f : Field) (value : String) : Except UsageError Progress :=
  if f.isList then .ok { p with values := p.values ++ [(f, value.splitOn ",")] }
  else if (p.values? f).isSome then .error .conflict
  else if f.isPath && value.isEmpty then .error .invalidValue
  else .ok { p with values := p.values ++ [(f, [value])] }

/-- Completes the last option. -/
def settle (p : Progress) : Except UsageError Progress :=
  match p.pending with
  | none => .ok p
  | some (_, none) => .error .invalidValue
  | some (f, some value) => { p with pending := none }.put f value

/-- Takes up an option, whose value may be part of the same argument. -/
def take (p : Progress) (f : Field) (value : Option String) : Except UsageError Progress := do
  let p ← p.settle
  match value with
  | some v => p.put f v
  | none => return { p with pending := some (f, none) }

/-- Takes up an option without a value. Help and version end the reading. -/
def raise (p : Progress) (f : Flag) : Except UsageError Progress := do
  let p ← p.settle
  match f with
  | .help => throw .help
  | .version => throw .version
  | .verbose => return { p with flags := f :: p.flags }
  | _ => if p.flags.contains f then throw .conflict else return { p with flags := f :: p.flags }

/-- Takes up a long option. -/
def takeLong (p : Progress) (name : String) (value : Option String) :
    Except UsageError Progress :=
  match named? name with
  | some (.field f) => p.take f value
  | some (.flag f) => if value.isSome then .error .tooManyValues else p.raise f
  | none => .error .unknownArgument

/-- Takes up an argument of letters. The first option with a value takes the rest as its value, a
sign of equality before it left out. -/
def takeLetters (p : Progress) : List Char → Except UsageError Progress
  | [] => .ok p
  | c :: rest =>
    match lettered? c with
    | some (.flag f) => do (← p.raise f).takeLetters rest
    | some (.field f) =>
      match rest with
      | [] => p.take f none
      | '=' :: value => p.take f (some (String.ofList value))
      | value => p.take f (some (String.ofList value))
    | none => .error .unknownArgument

/-- Takes up an argument that is no option: the value of the last option, if it lacks one. -/
def takePlain (p : Progress) (text : String) : Except UsageError Progress :=
  match p.pending with
  | some (f, none) => .ok { p with pending := some (f, some text) }
  | _ => .error .unknownArgument

/-- Reads arguments. After two dashes nothing is an option any more. -/
def read (p : Progress) : List String → Except UsageError Progress
  | [] => p.settle
  | text :: rest =>
    match text.toList with
    | ['-', '-'] => if rest.isEmpty then p.settle else .error .unknownArgument
    | '-' :: '-' :: cs =>
      let name := String.ofList (cs.takeWhile (· != '='))
      let value := match cs.dropWhile (· != '=') with
        | _ :: value => some (String.ofList value)
        | [] => none
      do (← p.takeLong name value).read rest
    | ['-'] => do (← p.takePlain text).read rest
    | '-' :: cs => do (← p.takeLetters cs).read rest
    | _ => do (← p.takePlain text).read rest

/-- The greatest verbosity. -/
def mostVerbose : Nat := 255

/-- What the options say together. -/
def toArguments (p : Progress) : Arguments :=
  let one (f : Field) : Option String := (p.values? f).bind (·.head?)
  { schema := (one .schema).getD "public"
    package := (one .package).getD "dao"
    output := one .output
    envFile := one .envFile
    typeMap := one .typeMap
    template := one .template
    enumTemplate := one .enumTemplate
    tables := p.values? .tables
    exclude := p.values? .exclude
    deprecated := p.values? .deprecated
    keyTypes := p.values? .keyTypes
    identityAsKey := p.flags.contains .identityAsKey
    noEnums := p.flags.contains .noEnums
    noFormat := p.flags.contains .noFormat
    verbosity := min (p.flags.count .verbose) mostVerbose }

end Progress

/-- Reads the arguments of the program. -/
def Arguments.read (texts : List String) : Except UsageError Arguments :=
  (Progress.read {} texts).map (·.toArguments)

end RowBindings.Command
