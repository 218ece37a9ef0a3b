import RowBindings.Text.Cut

/-!
# Connection settings

How to reach the database: by a URL, or by host, port, database, user and password. The settings
come from variables; a URL that is not empty decides alone. For messages there is a form of them
that does not show the password.
-/

namespace RowBindings.Connection

open RowBindings.Text

/-- Named values, such as those of a process. Of two of one name the first counts. -/
abbrev Variables := List (String × String)

/-- The parts of settings that are no URL. -/
structure Parameters where
  host : String := "localhost"
  port : UInt16 := 5432
  database : String
  user : String
  password : Option String := none
  deriving DecidableEq, Repr

/-- How to reach the database. -/
inductive Settings
  | url (text : String)
  | parameters (p : Parameters)
  deriving DecidableEq, Repr

/-- Why there are no settings. -/
inductive SettingsError
  | badPort
  /-- A variable is missing that is needed where there is no URL. -/
  | missing (variableName : String)
  /-- The file of variables cannot be read. -/
  | unreadable (path : String)
  deriving DecidableEq, Repr

/-- What is said about the error. -/
def SettingsError.message : SettingsError → String
  | badPort => "PGPORT must be a valid port number"
  | missing variableName =>
    variableName ++ " environment variable is required when DATABASE_URL is not set"
  | unreadable path => "Failed to load " ++ path

/-- Reads decimal digits, at least one. -/
def digits? (cs : List Char) : Option Nat :=
  if cs.isEmpty || cs.any (!·.isDigit) then none
  else some (cs.foldl (fun n c => n * 10 + (c.toNat - '0'.toNat)) 0)

/-- Reads a port: decimal digits, perhaps after a plus, of a number below 2^16. -/
def port? (text : String) : Option UInt16 :=
  let cs := match text.toList with
    | '+' :: rest => rest
    | cs => cs
  match digits? cs with
  | some n => if n < UInt16.size then some (UInt16.ofNat n) else none
  | none => none

namespace Settings

/-- The names of the variables that settings come from. -/
def variableNames : List String :=
  ["DATABASE_URL", "PGHOST", "PGPORT", "PGDATABASE", "PGUSER", "PGPASSWORD"]

/-- Reads a variable that has to be there. -/
def needed (vars : Variables) (variableName : String) : Except SettingsError String :=
  match vars.lookup variableName with
  | some value => .ok value
  | none => .error (.missing variableName)

/-- The parts of settings that variables give; of several faults the first counts. -/
def parametersOf (vars : Variables) : Except SettingsError Parameters := do
  let host := (vars.lookup "PGHOST").getD "localhost"
  let port ← match port? ((vars.lookup "PGPORT").getD "5432") with
    | some port => .ok port
    | none => .error .badPort
  let database ← needed vars "PGDATABASE"
  let user ← needed vars "PGUSER"
  return { host, port, database, user, password := vars.lookup "PGPASSWORD" }

/-- The settings that variables give. -/
def ofVariables (vars : Variables) : Except SettingsError Settings :=
  match vars.lookup "DATABASE_URL" with
  | some text => if text.isEmpty then (parametersOf vars).map parameters else .ok (url text)
  | none => (parametersOf vars).map parameters

/-- The parts as text, with a given text in the place of the password. -/
def parametersText (p : Parameters) (password : Option String) : String :=
  "host=" ++ p.host ++ " port=" ++ toString p.port.toNat ++ " dbname=" ++ p.database ++ " user=" ++
    p.user ++
    match password with
    | some text => " password=" ++ text
    | none => ""

/-- The text that the database client is given. -/
def text : Settings → String
  | url text => text
  | parameters p => parametersText p p.password

/-- What is written in the place of a password. -/
def mask : String := "***"

/-- A URL with the password masked: what stands between the first colon behind the scheme and the
last at sign. -/
def maskUrl (cs : List Char) : List Char :=
  let masked := do
    let (scheme, rest) ← cutAtFirst? "://".toList cs
    let (login, host) ← cutAtLast? '@' rest
    let (user, _) ← cutAtFirst? [':'] login
    return scheme ++ "://".toList ++ user ++ ':' :: mask.toList ++ '@' :: host
  masked.getD cs

/-- The text for messages, with the password masked. -/
def redacted : Settings → String
  | url text => String.ofList (maskUrl text.toList)
  | parameters p => parametersText p (p.password.map fun _ => mask)

end Settings

end RowBindings.Connection
