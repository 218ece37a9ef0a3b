import RowBindings.Connection.Settings
import RowBindings.Unicode.Blank
import RowBindings.Unicode.Category
import RowBindings.Unicode.Property

/-!
# Files of variables

Lines `NAME=value`, perhaps after `export`. A value may be quoted and may refer to variables with a
dollar sign. A quote that is open at the end of a line goes on in the next one. A variable that is
set already keeps its value.
-/

namespace RowBindings.Connection

open RowBindings.Unicode

namespace VariableFile

/-! ## Lines -/

/-- Where in a line of text one is. -/
inductive Place
  | plain
  | escaped
  | blank
  | single
  | singleEscaped
  | double
  | doubleEscaped
  deriving DecidableEq, Repr

/-- The place after a character. -/
def Place.next (p : Place) (c : Char) : Place :=
  let opened : Place :=
    if c = '\\' then .escaped else if c = '"' then .double else if c = '\'' then .single else .plain
  match p with
  | .blank => opened
  | .plain => if isBlank c && c != '\n' && c != '\r' then .blank else opened
  | .escaped => .plain
  | .double => if c = '\\' then .doubleEscaped else if c = '"' then .plain else .double
  | .doubleEscaped => .double
  | .single => if c = '\\' then .singleEscaped else if c = '\'' then .plain else .single
  | .singleEscaped => .single

/-- Goes through a line: what stands before a comment, and the place at the end. A comment starts
with a number sign after a single blank, and ends what was open. -/
def scanLine : Place → List Char → List Char × Place
  | p, [] => ([], p)
  | p, c :: rest =>
    if p = .blank && c = '#' then ([], .plain)
    else
      let (before, last) := scanLine (p.next c) rest
      (c :: before, last)

/-- The lines of a text, each with its end. -/
def physicalLines : List Char → List (List Char)
  | [] => []
  | '\n' :: rest => ['\n'] :: physicalLines rest
  | c :: rest =>
    match physicalLines rest with
    | line :: lines => (c :: line) :: lines
    | [] => [[c]]

/-- Joins lines as long as something is open at their end. Nothing may be open at the end of all. -/
def joinLines : Place → List Char → List (List Char) → Option (List (List Char))
  | p, _, [] => if p = .plain then some [] else none
  | p, before, line :: lines =>
    if (trimStart (before ++ line)).head? = some '#' then joinLines .plain [] lines
    else
      let (text, last) := scanLine p line
      if last = .plain then (joinLines .plain [] lines).map ((before ++ text) :: ·)
      else joinLines last (before ++ text) lines

/-! ## Values -/

/-- Whether a reference to a variable is being read. -/
inductive Reference
  | none
  | bare
  | braced
  deriving DecidableEq, Repr

/-- A value being read. -/
structure Reading where
  /-- The value so far, last character first. -/
  output : List Char := []
  single : Bool := false
  double : Bool := false
  escaped : Bool := false
  reference : Reference := .none
  /-- The name of the variable referred to, last character first. -/
  name : List Char := []

/-- Whether a character belongs to the name of a variable that is referred to without braces. -/
def isNameChar (c : Char) : Bool :=
  if c.toNat < 0x80 then c.isAlphanum
  else
    Property.alphabetic.contains c || Category.decimalNumber.contains c
      || Category.letterNumber.contains c || Category.otherNumber.contains c

namespace Reading

/-- Puts a character after the value. -/
def push (s : Reading) (c : Char) : Reading := { s with output := c :: s.output }

/-- Puts in the value of the variable referred to, and ends the reference. -/
def resolve (value : String → String) (s : Reading) : Reading :=
  { s with
    output := (value (String.ofList s.name.reverse)).toList.reverse ++ s.output
    name := []
    reference := .none }

/-- Takes a character that is not after the end of the value. -/
def step (value : String → String) (s : Reading) (c : Char) : Option Reading :=
  if s.escaped then
    let s := { s with escaped := false }
    if c = '\\' || c = '\'' || c = '"' || c = '$' || c = ' ' then some (s.push c)
    else if c = 'n' then some (s.push '\n')
    else none
  else if s.single then some (if c = '\'' then { s with single := false } else s.push c)
  else
    match s.reference with
    | .bare =>
      if isNameChar c then some { s with name := c :: s.name }
      else if c = '\x7b' && s.name.isEmpty then some { s with reference := .braced }
      else
        let s := s.resolve value
        some (if c = '$' then { s with reference := .bare } else s.push c)
    | .braced =>
      if c = '\x7d' then some (s.resolve value) else some { s with name := c :: s.name }
    | .none =>
      some <|
        if c = '$' then { s with reference := .bare }
        else if s.double then
          if c = '"' then { s with double := false }
          else if c = '\\' then { s with escaped := true }
          else s.push c
        else if c = '\'' then { s with single := true }
        else if c = '"' then { s with double := true }
        else if c = '\\' then { s with escaped := true }
        else s.push c

/-- Whether a character ends the value. -/
def endsAt (s : Reading) (c : Char) : Bool :=
  !s.escaped && !s.single && !s.double && s.reference = .none && (c = ' ' || c = '\t')

/-- The value, if nothing is open. -/
def finish (value : String → String) (s : Reading) : Option String :=
  if s.single || s.double || s.reference = .braced then none
  else some (String.ofList (s.resolve value).output.reverse)

end Reading

/-- Whether nothing but blanks or a comment is left after a value. -/
def isTail : List Char → Bool
  | [] => true
  | c :: rest => if c = ' ' || c = '\t' then isTail rest else c = '#'

/-- Reads a value; `value` gives those of variables. -/
def readValue (value : String → String) : Reading → List Char → Option String
  | s, [] => s.finish value
  | s, c :: rest =>
    if s.endsAt c then if isTail rest then s.finish value else none
    else (s.step value c).bind (readValue value · rest)

/-! ## Assignments -/

/-- Whether a character can be in the name of a variable. -/
def isKeyChar (c : Char) : Bool := c.isAlphanum || c = '_' || c = '.'

/-- Reads the name of a variable and the blanks after it. -/
def readKey (cs : List Char) : Option (String × List Char) :=
  match cs with
  | c :: _ =>
    if c.isAlpha || c = '_' then
      some (String.ofList (cs.takeWhile isKeyChar), trimStart (cs.dropWhile isKeyChar))
    else none
  | [] => none

/-- Reads what stands before a value: the name, perhaps with `export` before it, and the sign of
equality. -/
def readStart (cs : List Char) : Option (String × List Char) := do
  match ← readKey cs with
  | (key, '=' :: rest) => return (key, trimStart rest)
  | (key, rest) =>
    if key = "export" then
      match ← readKey rest with
      | (key, '=' :: rest) => return (key, trimStart rest)
      | _ => none
    else none

/-- The variables set before a line and by the lines before it. -/
structure Known where
  /-- What is set. -/
  vars : Variables
  /-- The values that the lines give, the last one first. -/
  given : Variables := []

/-- The value of a variable: the one that is set, else the last one given, else nothing. -/
def Known.value (k : Known) (name : String) : String :=
  match k.vars.lookup name with
  | some value => value
  | none => (k.given.lookup name).getD ""

/-- Sets a variable if it is not set yet. -/
def Known.assign (k : Known) (name value : String) : Known where
  vars :=
    if (k.vars.lookup name).isSome then k.vars else k.vars ++ [(name, value)]
  given := (name, value) :: k.given

/-- Reads a line; a line without anything is passed over. -/
def readLine (k : Known) (line : List Char) : Option Known :=
  let cs := trimStart (trimEnd line)
  if cs.isEmpty || cs.head? = some '#' then some k
  else do
    let (name, rest) ← readStart cs
    if rest.isEmpty || rest.head? = some '#' then return k.assign name ""
    else return k.assign name (← readValue k.value {} rest)

/-- The names that a text may refer to: what follows its dollar signs. -/
def referenceNames (text : String) : List String :=
  ((text.splitOn "$").drop 1).map fun part =>
    match part.toList with
    | '\x7b' :: rest => String.ofList (rest.takeWhile (· != '\x7d'))
    | cs => String.ofList (cs.takeWhile isNameChar)

/-- The variables after a file has been read, unless a line of it cannot be. -/
def load (vars : Variables) (text : String) : Option Variables := do
  let cs := match text.toList with
    | c :: rest => if c.toNat = 0xFEFF then rest else c :: rest
    | [] => []
  let lines ← joinLines .plain [] (physicalLines cs)
  let known ← lines.foldlM readLine { vars }
  return known.vars

end VariableFile

end RowBindings.Connection
