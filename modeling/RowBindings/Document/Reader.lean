import RowBindings.Document.Basic
import RowBindings.Document.Scalar

/-!
# Reading documents

Reads the text of a document. Whatever breaks a rule makes the whole text unreadable.
-/

namespace RowBindings.Document

open Unicode

namespace Reader

/-- Control characters, which may stand nowhere; the tab is none of them. -/
def isControl (c : Char) : Bool :=
  (c.toNat < 0x20 && c != '\t') || c.toNat == 0x7F

/-- Skips blanks and tabs. -/
def skipBlanks (cs : List Char) : List Char :=
  cs.dropWhile fun c => c == ' ' || c == '\t'

/-- Skips a line end, if there is one. -/
def lineEnd? : List Char → Option (List Char)
  | '\n' :: rest => some rest
  | '\r' :: '\n' :: rest => some rest
  | _ => none

/-- The longest stretch without control characters, and the rest. -/
def skipComment : List Char → List Char
  | '#' :: rest => rest.dropWhile fun c => !isControl c
  | cs => cs

/-- Skips blanks, comments and line ends. -/
def skipLines : Nat → List Char → List Char
  | 0, cs => cs
  | fuel + 1, cs =>
    let cs := skipComment (skipBlanks cs)
    match lineEnd? cs with
    | some rest => skipLines fuel rest
    | none => cs

/-! ## Texts -/

/-- The character with a hexadecimal code of `count` digits, and the rest. -/
def codeEscape? (count : Nat) (cs : List Char) : Option (Char × List Char) := do
  let digits := cs.take count
  if digits.length < count then none
  let n ← digits.foldlM (fun n c => (CodeRanges.hexDigit? c).map (n * 16 + ·)) 0
  if h : n.isValidChar then some (Char.ofNatAux n h, cs.drop count) else none

/-- What follows a backslash. -/
def escape? : List Char → Option (Char × List Char)
  | 'b' :: rest => some ('\x08', rest)
  | 't' :: rest => some ('\t', rest)
  | 'n' :: rest => some ('\n', rest)
  | 'f' :: rest => some ('\x0c', rest)
  | 'r' :: rest => some ('\r', rest)
  | 'e' :: rest => some ('\x1b', rest)
  | '"' :: rest => some ('"', rest)
  | '\\' :: rest => some ('\\', rest)
  | 'x' :: rest => codeEscape? 2 rest
  | 'u' :: rest => codeEscape? 4 rest
  | 'U' :: rest => codeEscape? 8 rest
  | _ => none

/-- The rest of a text in single quotes, the part read held in `acc`, last first. -/
def literal? (acc : List Char) : List Char → Option (List Char × List Char)
  | [] => none
  | c :: rest =>
    if c == '\'' then some (acc.reverse, rest)
    else if isControl c then none
    else literal? (c :: acc) rest

/-- The rest of a text in double quotes. -/
def basic? : Nat → List Char → List Char → Option (List Char × List Char)
  | 0, _, _ => none
  | _ + 1, _, [] => none
  | fuel + 1, acc, c :: rest =>
    if c == '"' then some (acc.reverse, rest)
    else if c == '\\' then do
      let (c, rest) ← escape? rest
      basic? fuel (c :: acc) rest
    else if isControl c then none
    else basic? fuel (c :: acc) rest

/-- Closing quotes of a text of several lines: three, the first of up to five belonging to the
text. -/
def closing? (quote : Char) (acc cs : List Char) : Option (List Char × List Char) :=
  let count := (cs.takeWhile (· == quote)).length
  if count < 3 then none
  else
    let inner := Nat.min (count - 3) 2
    some ((List.replicate inner quote ++ acc).reverse, cs.drop (inner + 3))

/-- Skips a line end at the start. -/
def dropLineEnd (cs : List Char) : List Char :=
  (lineEnd? cs).getD cs

/-- Skips blanks, tabs and line ends. -/
def skipSpace : Nat → List Char → List Char
  | 0, cs => cs
  | fuel + 1, cs =>
    let cs := skipBlanks cs
    match lineEnd? cs with
    | some rest => skipSpace fuel rest
    | none => cs

/-- The rest of a text of several lines. Only in double quotes (`escapes`) does a backslash have a
meaning; before a line end it removes all white space that follows. -/
def lines? (quote : Char) (escapes : Bool) : Nat → List Char → List Char →
    Option (List Char × List Char)
  | 0, _, _ => none
  | _ + 1, _, [] => none
  | fuel + 1, acc, c :: rest =>
    if c == quote then
      match closing? quote acc (c :: rest) with
      | some r => some r
      | none => lines? quote escapes fuel (c :: acc) rest
    else if escapes && c == '\\' then
      match lineEnd? (skipBlanks rest) with
      | some after => lines? quote escapes fuel acc (skipSpace fuel after)
      | none => do
        let (c, rest) ← escape? rest
        lines? quote escapes fuel (c :: acc) rest
    else if c == '\n' then lines? quote escapes fuel (c :: acc) rest
    else if c == '\r' then
      match rest with
      | '\n' :: rest => lines? quote escapes fuel ('\n' :: '\r' :: acc) rest
      | _ => none
    else if isControl c then none
    else lines? quote escapes fuel (c :: acc) rest

/-- A text. -/
def text? (cs : List Char) : Option (List Char × List Char) :=
  match cs with
  | '"' :: '"' :: '"' :: rest => lines? '"' true (rest.length + 1) [] (dropLineEnd rest)
  | '\'' :: '\'' :: '\'' :: rest => lines? '\'' false (rest.length + 1) [] (dropLineEnd rest)
  | '"' :: rest => basic? (rest.length + 1) [] rest
  | '\'' :: rest => literal? [] rest
  | _ => none

/-! ## Keys -/

/-- Characters of a key without quotes. -/
def isKeyChar (c : Char) : Bool :=
  c.isAlphanum || c == '-' || c == '_'

/-- One part of a key. -/
def keyPart? (cs : List Char) : Option (String × List Char) :=
  match cs with
  | '"' :: rest => (basic? (rest.length + 1) [] rest).map fun (k, r) => (String.ofList k, r)
  | '\'' :: rest => (literal? [] rest).map fun (k, r) => (String.ofList k, r)
  | cs =>
    let key := cs.takeWhile isKeyChar
    if key.isEmpty then none else some (String.ofList key, cs.dropWhile isKeyChar)

/-- A key: parts with dots between them. -/
def key? : Nat → List Char → Option (List String × List Char)
  | 0, _ => none
  | fuel + 1, cs => do
    let (part, rest) ← keyPart? (skipBlanks cs)
    match skipBlanks rest with
    | '.' :: rest => do
      let (parts, rest) ← key? fuel rest
      return (part :: parts, rest)
    | rest => return ([part], rest)

/-! ## Values -/

/-- Characters that end a word. -/
def endsWord (c : Char) : Bool :=
  isControl c || " \t,[]\x7b\x7d=#\"'".toList.contains c

/-- A word: a date and a time with a blank between them are one. -/
def word (cs : List Char) : List Char × List Char :=
  let first := cs.takeWhile (!endsWord ·)
  let rest := cs.dropWhile (!endsWord ·)
  match rest with
  | ' ' :: c :: more =>
    if (date? first) == some [] && c.isDigit then
      (first ++ ' ' :: (c :: more).takeWhile (!endsWord ·), (c :: more).dropWhile (!endsWord ·))
    else (first, rest)
  | _ => (first, rest)

mutual

/-- A value; `depth` more lists and tables may be nested in it. -/
def value? (depth fuel : Nat) (cs : List Char) : Option (Node × List Char) :=
  match depth, fuel, cs with
  | depth + 1, fuel + 1, '[' :: rest => do
    let (items, rest) ← items? depth fuel rest
    return (.list false items, rest)
  | depth + 1, fuel + 1, '\x7b' :: rest => do
    let (table, rest) ← entries? depth fuel (.table .inline []) rest
    return (table, rest)
  | _, _, '[' :: _ | _, _, '\x7b' :: _ => none
  | _, _, '"' :: _ | _, _, '\'' :: _ =>
    (text? cs).map fun (t, rest) => (.text (String.ofList t), rest)
  | _, _, cs =>
    let (w, rest) := word cs
    if isScalar w then some (.scalar, rest) else none
termination_by structural fuel

/-- The elements of a list up to the closing bracket. -/
def items? (depth fuel : Nat) (cs : List Char) : Option (List Node × List Char) :=
  match fuel with
  | 0 => none
  | fuel + 1 =>
    match skipLines cs.length cs with
    | ']' :: rest => some ([], rest)
    | cs => do
      let (item, rest) ← value? depth fuel cs
      match skipLines rest.length rest with
      | ',' :: rest => do
        let (items, rest) ← items? depth fuel rest
        return (item :: items, rest)
      | ']' :: rest => return ([item], rest)
      | _ => none
termination_by structural fuel

/-- The entries of a table in braces up to the closing brace, added to those before them. -/
def entries? (depth fuel : Nat) (table : Node) (cs : List Char) : Option (Node × List Char) :=
  match fuel with
  | 0 => none
  | fuel + 1 =>
    match skipLines cs.length cs with
    | '\x7d' :: rest => some (table, rest)
    | cs => do
      let (keys, rest) ← key? (cs.length + 1) cs
      let '=' :: rest := rest | none
      let (value, rest) ← value? depth fuel (skipBlanks rest)
      let key ← keys.getLast?
      let table ← Node.addEntry key value keys.dropLast table
      match skipLines rest.length rest with
      | ',' :: rest => entries? depth fuel table rest
      | '\x7d' :: rest => return (table, rest)
      | _ => none
termination_by structural fuel

end

/-- How deep lists and tables may be nested. -/
def depthLimit : Nat := 80

/-! ## Lines -/

/-- The end of a line: nothing but blanks and a comment may come before it. -/
def closeLine? (cs : List Char) : Option (List Char) :=
  match skipComment (skipBlanks cs) with
  | [] => some []
  | cs => lineEnd? cs

/-- One line of the document. -/
def line? (d : Draft) (cs : List Char) : Option (Draft × List Char) :=
  match skipBlanks cs with
  | '[' :: '[' :: rest => do
    let (path, rest) ← key? (rest.length + 1) rest
    let ']' :: ']' :: rest := rest | none
    return (← d.openElement path, rest)
  | '[' :: rest => do
    let (path, rest) ← key? (rest.length + 1) rest
    let ']' :: rest := rest | none
    return (← d.openTable path, rest)
  | cs => do
    match (skipComment cs), lineEnd? (skipComment cs) with
    | [], _ => return (d, [])
    | _, some _ => return (d, cs)
    | _, none => do
      let (keys, rest) ← key? (cs.length + 1) cs
      let '=' :: rest := rest | none
      let (value, rest) ← value? depthLimit (2 * rest.length + 2) (skipBlanks rest)
      return (← d.addEntry keys value, rest)

/-- The lines of the document. -/
def lines : Nat → Draft → List Char → Option Node
  | _, d, [] => some d.root
  | 0, _, _ => none
  | fuel + 1, d, cs => do
    let (d, rest) ← line? d cs
    lines fuel d (← closeLine? rest)

end Reader

/-- The root table of a document. -/
def read? (text : String) : Option Node :=
  let cs := match text.toList with
    | '\uFEFF' :: rest => rest
    | cs => cs
  Reader.lines (cs.length + 1) {} cs

end RowBindings.Document
