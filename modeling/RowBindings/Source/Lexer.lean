import RowBindings.Source.Token
import RowBindings.Text.StringLiteral
import RowBindings.Unicode.Blank
import RowBindings.Unicode.Property

/-!
# From text to tokens

Blanks and comments separate tokens. A documentation comment is the attribute that it stands for:
`/// text` is `#[doc = " text"]`, `//! text` is `#![doc = " text"]`. A literal keeps its spelling;
reading only finds where it ends.
-/

namespace RowBindings.Source

open RowBindings.Unicode

/-! ## Scanning -/

/-- A place in the text, and the characters passed since the last token, last one first. -/
structure Cursor where
  rest : List Char
  taken : List Char := []

/-- A scanner moves on, or fails. -/
abbrev Scan := StateT Cursor Option

namespace Scan

/-- The characters ahead. -/
def ahead : Scan (List Char) := do return (← get).rest

/-- Takes a character. -/
def next : Scan Char := fun s =>
  match s.rest with
  | [] => none
  | c :: rest => some (c, { rest, taken := c :: s.taken })

/-- Takes a character of a class. -/
def expect (p : Char → Bool) : Scan Char := do
  let c ← next
  if p c then return c else failure

/-- Takes a given text. -/
def literally (text : String) : Scan Unit :=
  text.toList.forM fun c => discard (expect (· == c))

/-- Takes characters as long as they are of a class. -/
def skipWhile (p : Char → Bool) : Scan Unit := fun s =>
  let (run, rest) := s.rest.span p
  some ((), { rest, taken := run.reverse ++ s.taken })

/-- Takes what a scanner takes, or nothing. -/
def optionally (s : Scan Unit) : Scan Unit := s <|> pure ()

/-- Repeats a step until it says that it was the last one. -/
def untilLast : Nat → Scan Bool → Scan Unit
  | 0, _ => failure
  | fuel + 1, step => do if ← step then return else untilLast fuel step

end Scan

open Scan

/-! ## Words -/

/-- Whether an identifier starts with a character. -/
def startsName (c : Char) : Bool :=
  c == '_' || if c.toNat < 0x80 then c.isAlpha else Property.identifierStart.contains c

/-- Whether an identifier goes on with a character. -/
def continuesName (c : Char) : Bool :=
  if c.toNat < 0x80 then c.isAlphanum || c == '_' else Property.identifierContinue.contains c

/-- Takes a word. -/
def takeWord : Scan Unit := do
  discard (expect startsName)
  skipWhile continuesName

/-- The words that `r#` is never written before. -/
def neverRaw : List String := ["_", "super", "self", "Self", "crate"]

/-- Takes an identifier with or without `r#`. -/
def takeName : Scan Unit :=
  (do literally "r#"
      let before ← get
      takeWord
      let word := (← get).taken.take ((← get).taken.length - before.taken.length)
      if neverRaw.contains (String.ofList word.reverse) then failure)
  <|> (do
      match ← ahead with
      | 'r' :: '#' :: _ => failure
      | _ => takeWord)

/-- What a word must not start with, since a quoted literal does. -/
def quotedPrefixes : List String :=
  ["r\"", "r#\"", "r##", "b\"", "b'", "br\"", "br#", "c\"", "cr\"", "cr#"]

/-! ## Literals -/

/-- The rules of a kind of quoted text. -/
structure Quoting where
  /-- The characters that stand for themselves. -/
  plain : Char → Bool
  /-- The characters that follow a backslash alone. -/
  escapes : List Char
  /-- What follows `\x`, whose two digits it is given. -/
  hex : Char → Char → Bool
  /-- Whether `\u` has a meaning, and for which code points. -/
  codePoint : Nat → Bool

namespace Quoting

/-- Text. -/
def ofText : Quoting where
  plain _ := true
  escapes := ['n', 'r', 't', '\\', '\'', '"', '0']
  hex a _ := '0' ≤ a && a ≤ '7'
  codePoint _ := true

/-- Bytes. -/
def ofBytes : Quoting where
  plain c := c.toNat < 0x80
  escapes := ['n', 'r', 't', '\\', '\'', '"', '0']
  hex _ _ := true
  codePoint _ := false

/-- Text that ends at a zero byte. -/
def ofZeroEnded : Quoting where
  plain c := c ≠ '\x00'
  escapes := ['n', 'r', 't', '\\', '\'', '"']
  hex a b := !(a == '0' && b == '0')
  codePoint n := n ≠ 0

end Quoting

/-- Whether a character is a hexadecimal digit. -/
def isHexDigit (c : Char) : Bool := (CodeRanges.hexDigit? c).isSome

/-- Takes the digits of a code point up to the closing brace; at most six, the first one no
underscore. -/
def takeCodePoint : Nat → Nat → Scan Nat
  | value, count => do
    let fuel := (← ahead).length
    go (fuel + 1) value count
where
  go : Nat → Nat → Nat → Scan Nat
    | 0, _, _ => failure
    | fuel + 1, value, count => do
      let c ← next
      match CodeRanges.hexDigit? c with
      | some d => if count == 6 then failure else go fuel (value * 16 + d) (count + 1)
      | none =>
        if count == 0 then failure
        else if c == '_' then go fuel value count
        else if c == '\x7d' && (value < 0xD800 || (0xDFFF < value && value ≤ 0x10FFFF)) then
          return value
        else failure

/-- Takes the blanks after a line end that a backslash hides; text has to follow. -/
def takeHiddenBlanks (fuel : Nat) (lineEnd : Char) : Scan Unit := do
  if lineEnd == '\r' then literally "\n"
  untilLast fuel do
    match ← ahead with
    | [] => failure
    | '\r' :: _ => literally "\r\n"; return false
    | c :: _ =>
      if c == ' ' || c == '\t' || c == '\n' then discard next; return false
      else return true

/-- Takes an escape, after its backslash. -/
def takeEscape (q : Quoting) : Scan Unit := do
  let c ← next
  if q.escapes.contains c then return
  else if c == 'x' then
    let a ← expect isHexDigit
    let b ← expect isHexDigit
    if q.hex a b then return else failure
  else if c == 'u' then
    literally "\x7b"
    if q.codePoint (← takeCodePoint 0 0) then return else failure
  else failure

/-- Takes quoted text after its opening quote, with the closing one. -/
def takeQuoted (q : Quoting) (fuel : Nat) : Scan Unit :=
  untilLast fuel do
    let c ← next
    if c == '"' then return true
    else if c == '\r' then literally "\n"; return false
    else if c == '\\' then
      match ← ahead with
      | '\n' :: _ => discard next; takeHiddenBlanks fuel '\n'
      | '\r' :: _ => discard next; takeHiddenBlanks fuel '\r'
      | _ => takeEscape q
      return false
    else if q.plain c then return false
    else failure

/-- Takes quoted text without escapes, from the marks before its opening quote on. -/
def takeRaw (q : Quoting) (fuel : Nat) : Scan Unit := do
  let marks := (← ahead).takeWhile (· == '#')
  if marks.length > 255 then failure
  let fence := String.ofList marks
  literally fence
  literally "\""
  untilLast fuel do
    let c ← next
    if c == '"' && marks.isPrefixOf (← ahead) then literally fence; return true
    else if c == '\r' then literally "\n"; return false
    else if q.plain c then return false
    else failure

/-- Takes quoted text of a kind, its name before it. -/
def takeQuotedAfter (name : String) (q : Quoting) (fuel : Nat) : Scan Unit :=
  (do literally (name ++ "\""); takeQuoted q fuel) <|> (do literally (name ++ "r"); takeRaw q fuel)

/-- Takes a character between apostrophes. -/
def takeCharacter (q : Quoting) : Scan Unit := do
  literally "'"
  let c ← next
  if c == '\\' then takeEscape q
  else if q.plain c then pure ()
  else failure
  literally "'"

/-- Takes the word that follows a number, and nothing must go on after it. -/
def takeNumberEnd : Scan Unit := do
  optionally takeWord
  match ← ahead with
  | c :: _ => if continuesName c then failure
  | [] => return

/-- Takes the digits of an exponent after its letter; gives back whether there were any. -/
def takeExponent (fuel : Nat) : Scan Bool :=
  go fuel false false
where
  go : Nat → Bool → Bool → Scan Bool
    | 0, _, _ => failure
    | fuel + 1, signed, valued => do
      match ← ahead with
      | c :: _ =>
        if c == '+' || c == '-' then
          if valued then return true
          else if signed then return false
          else discard next; go fuel true valued
        else if c.isDigit then discard next; go fuel signed true
        else if c == '_' then discard next; go fuel signed valued
        else return valued
      | [] => return valued

/-- Takes digits with a point or an exponent. -/
def takeFloat (fuel : Nat) : Scan Unit := do
  discard (expect (·.isDigit))
  let isDigitLike := fun c : Char => c.isDigit || c == '_'
  skipWhile isDigitLike
  let dotted ← match ← ahead with
    | ['.'] => discard next; pure true
    | '.' :: c :: _ =>
      if c == '.' || startsName c then failure
      else discard next; skipWhile isDigitLike; pure true
    | _ => pure false
  let beforeExponent ← get
  match ← ahead with
  | c :: _ =>
    if c == 'e' || c == 'E' then
      discard next
      if !(← takeExponent fuel) then
        if dotted then set beforeExponent else failure
    else if !dotted then failure
  | [] => if !dotted then failure
  takeNumberEnd

/-- Takes the digits of a whole number in a base; an underscore is no first digit in base ten. -/
def takeDigits (base : Nat) (fuel : Nat) : Scan Unit :=
  go fuel true
where
  go : Nat → Bool → Scan Unit
    | 0, _ => failure
    | fuel + 1, isEmpty => do
      let stop : Scan Unit := if isEmpty then failure else pure ()
      match ← ahead with
      | [] => stop
      | c :: _ =>
        if c == '_' then
          if isEmpty && base == 10 then failure
          else discard next; go fuel isEmpty
        else match CodeRanges.hexDigit? c with
          | some d =>
            if d < base then discard next; go fuel false
            else if c.isDigit then failure
            else stop
          | none => stop

/-- Takes a whole number. -/
def takeInteger (fuel : Nat) : Scan Unit := do
  match ← ahead with
  | '0' :: 'x' :: _ => literally "0x"; takeDigits 16 fuel
  | '0' :: 'o' :: _ => literally "0o"; takeDigits 8 fuel
  | '0' :: 'b' :: _ => literally "0b"; takeDigits 2 fuel
  | _ => takeDigits 10 fuel
  takeNumberEnd

/-- Takes a literal. -/
def takeLiteral (fuel : Nat) : Scan Unit :=
  (do takeQuotedAfter "" .ofText fuel; optionally takeWord)
  <|> (do takeQuotedAfter "b" .ofBytes fuel; optionally takeWord)
  <|> (do takeQuotedAfter "c" .ofZeroEnded fuel; optionally takeWord)
  <|> (do literally "b"; takeCharacter .ofBytes; optionally takeWord)
  <|> (do takeCharacter .ofText; optionally takeWord)
  <|> takeFloat fuel
  <|> takeInteger fuel

/-! ## Comments -/

/-- Takes a comment in brackets, with the comments inside it. -/
def takeBlockComment (fuel : Nat) : Scan Unit := do
  literally "/*"
  go fuel 1
where
  go : Nat → Nat → Scan Unit
    | _, 0 => return
    | 0, _ => failure
    | fuel + 1, depth + 1 => do
      match ← ahead with
      | '/' :: '*' :: _ => literally "/*"; go fuel (depth + 2)
      | '*' :: '/' :: _ => literally "*/"; go fuel depth
      | [] => failure
      | _ => discard next; go fuel (depth + 1)

/-- Takes the rest of a line without its end. -/
def takeLine (fuel : Nat) : Scan (List Char) := do
  let line ← go fuel []
  return line.reverse
where
  go : Nat → List Char → Scan (List Char)
    | 0, line => return line
    | fuel + 1, line => do
      match ← ahead with
      | [] => return line
      | '\n' :: _ => return line
      | '\r' :: '\n' :: _ => discard next; return line
      | c :: _ => discard next; go fuel (c :: line)

/-- Whether a character separates tokens. The two direction marks do. -/
def isSeparator (c : Char) : Bool :=
  isBlank c || c.toNat == 0x200E || c.toNat == 0x200F

/-- Takes one blank or comment, if there is one that is no documentation. -/
def takeSeparator (fuel : Nat) : Scan Unit := do
  match ← ahead with
  | '/' :: '/' :: '/' :: '/' :: _ => discard (takeLine fuel)
  | '/' :: '/' :: '/' :: _ => failure
  | '/' :: '/' :: '!' :: _ => failure
  | '/' :: '/' :: _ => discard (takeLine fuel)
  | '/' :: '*' :: '*' :: '/' :: _ => literally "/**/"
  | '/' :: '*' :: '*' :: '*' :: _ => takeBlockComment fuel
  | '/' :: '*' :: '*' :: _ => failure
  | '/' :: '*' :: '!' :: _ => failure
  | '/' :: '*' :: _ => takeBlockComment fuel
  | c :: _ => if isSeparator c then discard next else failure
  | [] => failure

/-- Drops blanks and comments. -/
def skipSeparators : Nat → Nat → Cursor → Cursor
  | 0, _, s => s
  | steps + 1, fuel, s =>
    match takeSeparator fuel s with
    | some (_, s) => skipSeparators steps fuel { s with taken := [] }
    | none => s

/-- Whether each carriage return in a text is followed by a line feed. -/
def pairsReturns : List Char → Bool
  | '\r' :: '\n' :: rest => pairsReturns rest
  | '\r' :: _ => false
  | _ :: rest => pairsReturns rest
  | [] => true

/-- Takes a documentation comment: its text, and whether it documents what it stands in. -/
def takeDocumentation (fuel : Nat) : Scan (List Char × Bool) := do
  let block : Scan (List Char) := do
    takeBlockComment fuel
    return (← get).taken.reverse.drop 3 |>.dropLast.dropLast
  let (text, isInner) ← match ← ahead with
    | '/' :: '/' :: '!' :: _ => do literally "//!"; pure (← takeLine fuel, true)
    | '/' :: '*' :: '!' :: _ => do pure (← block, true)
    | '/' :: '/' :: '/' :: '/' :: _ => failure
    | '/' :: '/' :: '/' :: _ => do literally "///"; pure (← takeLine fuel, false)
    | '/' :: '*' :: '*' :: '*' :: _ => failure
    | '/' :: '*' :: '*' :: _ => do pure (← block, false)
    | _ => failure
  if pairsReturns text then return (text, isInner) else failure

/-- The literal of a documentation comment's text. An apostrophe needs no escape, and a zero
before an octal digit is written in full. -/
def documentationLiteral : List Char → List Char
  | [] => []
  | c :: rest =>
    (if c = '\x00' && (rest.head?.any fun d => '0' ≤ d && d ≤ '7') then ['\\', 'x', '0', '0']
     else Text.escapeChar c) ++ documentationLiteral rest

/-- The attribute that a documentation comment stands for. -/
def documentationTrees (text : List Char) (isInner : Bool) : List Tree :=
  let literal := String.ofList ('"' :: documentationLiteral text ++ ['"'])
  .mark '#' false :: (if isInner then [.mark '!' false] else []) ++
    [.group .square [.word "doc", .mark '=' false, .literal literal]]

/-! ## Tokens -/

/-- The characters of punctuation. -/
def punctuation : List Char := "~!@#$%^&*-=+|;:,<.>/?'".toList

/-- Whether punctuation is ahead, and not a comment. -/
def startsMark : List Char → Bool
  | '/' :: '/' :: _ => false
  | '/' :: '*' :: _ => false
  | c :: _ => punctuation.contains c
  | [] => false

/-- Takes a mark. An apostrophe must have a word behind it, which no other one closes. -/
def takeMark : Scan Tree := do
  if !startsMark (← ahead) then failure
  let c ← next
  let after ← get
  if c == '\'' then
    takeName
    match ← ahead with
    | '\'' :: _ => failure
    | '#' :: _ => if !"r#".toList.isPrefixOf after.rest then failure
    | _ => pure ()
    set after
    return .mark c true
  else
    return .mark c (startsMark after.rest)

/-- Takes a literal, mark or word. -/
def takeToken (fuel : Nat) : Scan Tree := do
  let text : Scan String := do return String.ofList (← get).taken.reverse
  (do takeLiteral fuel; return .literal (← text))
  <|> takeMark
  <|> (do
    let cs ← ahead
    if quotedPrefixes.any (·.toList.isPrefixOf cs) then failure
    takeName
    return .word (← text))

/-- Reads tokens. Of each open group and of the whole are kept the trees so far, last one first. -/
def lexFrom : Nat → Nat → List (Bracket × List Tree) → List Tree → Cursor → Option (List Tree)
  | 0, _, _, _, _ => none
  | steps + 1, fuel, opened, trees, s =>
    let s := skipSeparators fuel fuel { s with taken := [] }
    match takeDocumentation fuel s with
    | some ((text, isInner), s) =>
      lexFrom steps fuel opened ((documentationTrees text isInner).reverse ++ trees) s
    | none =>
      match s.rest with
      | [] => if opened.isEmpty then some trees.reverse else none
      | c :: rest =>
        match Bracket.ofOpening? c, Bracket.ofClosing? c with
        | some b, _ => lexFrom steps fuel ((b, trees) :: opened) [] { rest }
        | none, some b =>
          match opened with
          | (b', outer) :: opened =>
            if b = b' then lexFrom steps fuel opened (.group b trees.reverse :: outer) { rest }
            else none
          | [] => none
        | none, none =>
          match takeToken fuel s with
          | some (t, s) => lexFrom steps fuel opened (t :: trees) s
          | none => none

/-- The tokens of a text, unless something in it is no token or a bracket lacks its partner. -/
def lex (text : List Char) : Option (List Tree) :=
  let fuel := text.length + 2
  lexFrom fuel fuel [] [] { rest := text }

/-- The text between the quotes of a string literal, its escapes resolved. Nothing for another
literal. -/
def stringValue? (literal : String) : Option String :=
  match literal.toList with
  | '"' :: rest => some (String.ofList (cooked (rest.length + 1) rest))
  | 'r' :: rest =>
    let marks := rest.takeWhile (· == '#')
    match rest.drop marks.length with
    | '"' :: body => some (String.ofList (raw ('"' :: marks) body))
    | _ => none
  | _ => none
where
  raw (fence : List Char) : List Char → List Char
    | [] => []
    | c :: rest => if fence.isPrefixOf (c :: rest) then [] else c :: raw fence rest
  cooked : Nat → List Char → List Char
    | 0, _ => []
    | fuel + 1, cs =>
      match cs with
      | [] => []
      | '"' :: _ => []
      | '\r' :: '\n' :: rest => '\n' :: cooked fuel rest
      | '\\' :: 'n' :: rest => '\n' :: cooked fuel rest
      | '\\' :: 'r' :: rest => '\r' :: cooked fuel rest
      | '\\' :: 't' :: rest => '\t' :: cooked fuel rest
      | '\\' :: '0' :: rest => '\x00' :: cooked fuel rest
      | '\\' :: 'x' :: a :: b :: rest =>
        Char.ofNat ((CodeRanges.hexDigit? a).getD 0 * 16 + (CodeRanges.hexDigit? b).getD 0) :: cooked fuel rest
      | '\\' :: 'u' :: _ :: rest =>
        let digits := rest.takeWhile (· != '\x7d')
        let code := digits.foldl (fun n c => match CodeRanges.hexDigit? c with
          | some d => n * 16 + d
          | none => n) 0
        Char.ofNat code :: cooked fuel (rest.drop (digits.length + 1))
      | '\\' :: '\n' :: rest => cooked fuel (rest.dropWhile isHidden)
      | '\\' :: '\r' :: rest => cooked fuel (rest.dropWhile isHidden)
      | '\\' :: c :: rest => c :: cooked fuel rest
      | c :: rest => c :: cooked fuel rest
  isHidden (c : Char) : Bool := c == ' ' || c == '\t' || c == '\n' || c == '\r'

end RowBindings.Source
