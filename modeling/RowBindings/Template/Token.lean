import RowBindings.Template.Fault
import RowBindings.Unicode.Blank
import RowBindings.Unicode.CodeRanges

/-!
# Tokens of a template

A template is text with tags in it: `{{ … }}` shows a value, `{% … %}` holds a statement and
`{# … #}` a comment. The line end after a statement or comment belongs to it, and so do the blanks
before it if nothing else stands before it on its line. A `-` at the inner end of a tag takes away
all white space on that side, a `+` keeps it.
-/

namespace RowBindings.Template

open Unicode

/-- A token. -/
inductive Token
  /-- Text outside tags. -/
  | data (text : String)
  | showStart
  | showEnd
  | blockStart
  | blockEnd
  | name (name : String)
  | text (s : String)
  | int (n : Nat)
  /-- The number `digits · 10 ^ exponent`. -/
  | decimal (digits : Nat) (exponent : Int)
  /-- An operator or a bracket. -/
  | sign (s : String)
  /-- Where the text stops making sense. -/
  | bad (fault : Fault)
  deriving DecidableEq, Repr

/-- What a tag asks for on one of its sides. -/
inductive Trim
  | byDefault
  | keep
  | remove
  deriving DecidableEq, Repr

/-- The kinds of tags. -/
inductive Tag
  | output
  | block
  | comment
  deriving DecidableEq, Repr

/-- A place in the text: what is before it, last character first, and what is after it. -/
structure Cursor where
  before : List Char := []
  rest : List Char

namespace Cursor

/-- Moves on by `n` characters. -/
def advance (c : Cursor) (n : Nat) : Cursor :=
  { before := (c.rest.take n).reverse ++ c.before, rest := c.rest.drop n }

/-- Moves on past characters of a kind. -/
def skipWhile (p : Char → Bool) (c : Cursor) : Cursor :=
  c.advance (c.rest.takeWhile p).length

/-- The length of one line end, if there is one: a line feed, after a carriage return or not. -/
def lineEndLength : List Char → Nat
  | '\r' :: '\n' :: _ => 2
  | '\r' :: _ => 1
  | '\n' :: _ => 1
  | _ => 0

/-- Moves on as the end of a tag asks for. -/
def skipAfterTag (trim : Trim) (c : Cursor) : Cursor :=
  match trim with
  | .keep => c
  | .byDefault => c.advance (lineEndLength c.rest)
  | .remove => c.skipWhile isBlank

end Cursor

namespace Lexer

/-- The character is a line end. -/
def isLineEnd (c : Char) : Bool :=
  c == '\n' || c == '\r'

/-- Nothing but white space stands before a place on its line. -/
def startsLine (before : List Char) : Bool :=
  match before.dropWhile fun c => isBlank c && !isLineEnd c with
  | [] => true
  | c :: _ => isLineEnd c

/-- A mark for white space at one side of a tag. -/
def trimMark : List Char → Trim
  | '-' :: _ => .remove
  | '+' :: _ => .keep
  | _ => .byDefault

/-- The number of characters of a mark. -/
def Trim.width : Trim → Nat
  | .byDefault => 0
  | _ => 1

/-- The opening of the next tag: the text before it, last character first, and its kind. -/
def nextTag? (acc : List Char) : List Char → Option (List Char × Tag)
  | [] => none
  | [_] => none
  | c :: d :: rest =>
    if c == '\x7b' && d == '\x7b' then some (acc, .output)
    else if c == '\x7b' && d == '%' then some (acc, .block)
    else if c == '\x7b' && d == '#' then some (acc, .comment)
    else nextTag? (c :: acc) (d :: rest)

/-- The number of characters before the first place where `pattern` stands. -/
def indexOf? (pattern : List Char) (i : Nat) : List Char → Option Nat
  | [] => if pattern.isEmpty then some i else none
  | c :: rest => if pattern.isPrefixOf (c :: rest) then some i else indexOf? pattern (i + 1) rest

/-- Without white space at its end, unless a line end is part of it. -/
def dropIndent (text : List Char) : List Char :=
  dropWhileEnd (fun c => isBlank c && !isLineEnd c) text

/-- The text before a tag as it is kept; `before` is what precedes the text. -/
def leadBefore (tag : Tag) (trim : Trim) (before text : List Char) : List Char :=
  match trim with
  | .remove => trimEnd text
  | .keep => text
  | .byDefault =>
    if tag != .output && startsLine (text.reverse ++ before) then dropIndent text else text

/-- A data token, if there is any text. -/
def dataToken (text : List Char) : List Token :=
  if text.isEmpty then [] else [.data (String.ofList text)]

/-! ## Inside tags -/

/-- A word at the start. -/
def word (cs : List Char) : List Char :=
  match cs with
  | [] => []
  | c :: rest =>
    if c.isAlpha || c == '_' then c :: rest.takeWhile fun c => c.isAlphanum || c == '_' else []

/-- The part of a number that is being read. -/
inductive NumberPart
  | whole
  | radix (base : Nat)
  | fraction
  | exponent
  | exponentDigits
  deriving DecidableEq

/-- The characters of a number, `part` being the part read last. -/
def numberChars : NumberPart → List Char → List Char
  | _, [] => []
  | part, c :: rest =>
    let next : Option NumberPart :=
      if c == '_' then some part
      else match part with
        | .radix base =>
          match CodeRanges.hexDigit? c with
          | some d => if d < base then some part else none
          | none => none
        | .whole =>
          if c.isDigit then some .whole
          else if c == '.' then some .fraction
          else if c == 'e' || c == 'E' then some .exponent
          else none
        | .fraction =>
          if c.isDigit then some .fraction
          else if c == 'e' || c == 'E' then some .exponent
          else none
        | .exponent => if c.isDigit || c == '+' || c == '-' then some .exponentDigits else none
        | .exponentDigits => if c.isDigit then some .exponentDigits else none
    match next with
    | some part => c :: numberChars part rest
    | none => []

/-- The value of digits. -/
def digitsValue (base : Nat) (cs : List Char) : Nat :=
  cs.foldl (fun n c => n * base + (CodeRanges.hexDigit? c).getD 0) 0

/-- A whole number, unless it is too large. -/
def intToken (base : Nat) (digits : List Char) : Token :=
  let n := digitsValue base digits
  if digits.isEmpty || n ≥ Nat.pow 2 128 then .bad .malformed else .int n

/-- A number with a fraction or an exponent. -/
def decimalToken (cs : List Char) : Token :=
  let isMark (c : Char) : Bool := c == 'e' || c == 'E'
  let mantissa := cs.takeWhile fun c => !isMark c
  let whole := mantissa.takeWhile (· != '.')
  let fraction := mantissa.drop (whole.length + 1)
  let exponent := cs.drop (mantissa.length + 1)
  let digits := match exponent with
    | '+' :: rest => rest
    | '-' :: rest => rest
    | rest => rest
  if mantissa.length < cs.length && digits.isEmpty then .bad .malformed
  else
    let shift : Int := digitsValue 10 digits
    let shift := if exponent.head? == some '-' then -shift else shift
    .decimal (digitsValue 10 (whole ++ fraction)) (shift - fraction.length)

/-- A number: the token and the number of characters it takes. -/
def number (cs : List Char) : Token × Nat :=
  let base := match cs with
    | '0' :: 'b' :: _ | '0' :: 'B' :: _ => 2
    | '0' :: 'o' :: _ | '0' :: 'O' :: _ => 8
    | '0' :: 'x' :: _ | '0' :: 'X' :: _ => 16
    | _ => 10
  let skipped := if base == 10 then 0 else 2
  let chars := numberChars (if base == 10 then .whole else .radix base) (cs.drop skipped)
  let digits := chars.filter (· != '_')
  let token :=
    if chars.getLast? == some '_' then .bad .malformed
    else if base == 10 && digits.any fun c => !c.isDigit then decimalToken digits
    else intToken base digits
  (token, skipped + chars.length)

/-- The characters of a text up to its closing quote. -/
def quoted? (quote : Char) (acc : List Char) : List Char → Option (List Char)
  | [] => none
  | [c] => if c == quote then some acc.reverse else none
  | c :: d :: rest =>
    if c == quote then some acc.reverse
    else if c == '\\' then quoted? quote (d :: c :: acc) rest
    else quoted? quote (c :: acc) (d :: rest)

/-- Adds a unit of a two-unit encoding to the characters read, last first; `high` is the first half
of a pair that waits for its second. -/
def addUnit? (acc : List Char) (high : Option Nat) (unit : Nat) :
    Option (List Char × Option Nat) :=
  let isHigh := 0xD800 ≤ unit && unit < 0xDC00
  let isLow := 0xDC00 ≤ unit && unit < 0xE000
  match high with
  | none =>
    if isHigh || isLow then some (acc, some unit) else some (Char.ofNat unit :: acc, none)
  | some h =>
    if isLow && h < 0xDC00 then
      some (Char.ofNat (0x10000 + (h - 0xD800) * 0x400 + (unit - 0xDC00)) :: acc, none)
    else none

/-- A text with its escapes resolved. -/
def unescape? (acc : List Char) (high : Option Nat) : List Char → Option (List Char)
  | [] => if high.isSome then none else some acc.reverse
  | ['\\'] => none
  | '\\' :: 'u' :: a :: b :: c :: d :: rest =>
    let digits := (if a == '+' then [b, c, d] else [a, b, c, d]).map CodeRanges.hexDigit?
    if digits.all Option.isSome then
      match addUnit? acc high (digits.foldl (fun n x => n * 16 + x.getD 0) 0) with
      | some (acc, high) => unescape? acc high rest
      | none => none
    else none
  | '\\' :: c :: rest =>
    if high.isSome then none
    else if c == '"' || c == '\\' || c == '/' || c == '\'' then unescape? (c :: acc) none rest
    else if c == 'b' then unescape? ('\x08' :: acc) none rest
    else if c == 'f' then unescape? ('\x0c' :: acc) none rest
    else if c == 'n' then unescape? ('\n' :: acc) none rest
    else if c == 'r' then unescape? ('\r' :: acc) none rest
    else if c == 't' then unescape? ('\t' :: acc) none rest
    else none
  | c :: rest => if high.isSome then none else unescape? (c :: acc) none rest

/-- A text: the token and the number of characters it takes. -/
def textToken (quote : Char) (cs : List Char) : Token × Nat :=
  match quoted? quote [] cs with
  | none => (.bad .malformed, 0)
  | some inner =>
    match unescape? [] none inner with
    | none => (.bad .badEscape, 0)
    | some s => (.text (String.ofList s), inner.length + 2)

/-- Signs of two characters. -/
def longSigns : List String := ["//", "**", "==", "!=", ">=", "<="]

/-- Signs of one character. -/
def shortSigns : List Char := "+-*/%!.,:~=><|()[]\x7b\x7d".toList

/-- The next token inside a tag, and the number of characters it takes. -/
def innerToken (cs : List Char) : Token × Nat :=
  match longSigns.find? fun s => s.toList.isPrefixOf cs with
  | some s => (.sign s, 2)
  | none =>
    match cs with
    | [] => (.bad .malformed, 0)
    | c :: rest =>
      if shortSigns.contains c then (.sign (String.ofList [c]), 1)
      else if c == '\'' || c == '"' then textToken c rest
      else if c.isDigit then number cs
      else
        let w := word cs
        if w.isEmpty then (.bad .malformed, 0) else (.name (String.ofList w), w.length)

/-- The end of a tag: how many characters it takes, and what it asks for. -/
def tagEnd? (tag : Tag) (cs : List Char) : Option (Nat × Trim) :=
  let closing := if tag == .block then ['%', '\x7d'] else ['\x7d', '\x7d']
  if closing.isPrefixOf cs then some (2, if tag == .block then .byDefault else .keep)
  else match cs with
    | '-' :: rest => if closing.isPrefixOf rest then some (3, .remove) else none
    | '+' :: rest => if tag == .block && closing.isPrefixOf rest then some (3, .keep) else none
    | _ => none

/-- The tokens inside a tag, and what follows the tag. A fault ends the tokens. -/
def insideTag (tag : Tag) : Nat → Cursor → List Token × Option Cursor
  | 0, _ => ([.bad .malformed], none)
  | fuel + 1, c =>
    let c := c.skipWhile isPlainBlank
    if c.rest.isEmpty then ([], none)
    else match tagEnd? tag c.rest with
    | some (n, trim) =>
      ([if tag == .block then .blockEnd else .showEnd], some ((c.advance n).skipAfterTag trim))
    | none =>
      match innerToken c.rest with
      | (.bad fault, _) => ([.bad fault], none)
      | (token, n) =>
        let (tokens, after) := insideTag tag fuel (c.advance n)
        (token :: tokens, after)

/-! ## Text kept as it is -/

/-- A tag of one word, after its opening: the number of characters it takes and what its end asks
for. -/
def wordTag? (name : List Char) (cs : List Char) : Option (Nat × Trim) :=
  let start := cs.dropWhile isPlainBlank
  if name.isPrefixOf start then
    let after := (start.drop name.length).dropWhile isPlainBlank
    let trim := trimMark after
    let after := after.drop (Trim.width trim)
    if ['%', '\x7d'].isPrefixOf after then some (cs.length - after.length + 2, trim) else none
  else none

/-- The place of the tag that ends text kept as it is: the number of characters before it, what it
asks for on both sides, and the number of characters it takes. -/
def rawEnd? (i : Nat) : List Char → Option (Nat × Trim × Trim × Nat)
  | [] => none
  | c :: rest =>
    let found : Option (Nat × Trim × Trim × Nat) :=
      match c, rest with
      | '\x7b', '%' :: inner =>
        let trim := trimMark inner
        (wordTag? "endraw".toList (inner.drop (Trim.width trim))).map fun (n, trimEnd) =>
          (i, trim, trimEnd, n + 2 + Trim.width trim)
      | _, _ => none
    match found with
    | some r => some r
    | none => rawEnd? (i + 1) rest

/-- Text kept as it is: the text, without what the tags around it take away. -/
def rawText (opening closing : Trim) (text : List Char) : List Char :=
  let text := match opening with
    | .byDefault => text.drop (Cursor.lineEndLength text)
    | .remove => trimStart text
    | .keep => text
  match closing with
  | .byDefault => if startsLine text.reverse then dropIndent text else text
  | .remove => trimEnd text
  | .keep => text

/-! ## The whole text -/

/-- The tokens from a place outside tags. -/
def outsideTags : Nat → Cursor → List Token
  | 0, _ => [.bad .malformed]
  | fuel + 1, c =>
    match nextTag? [] c.rest with
    | none => dataToken c.rest
    | some (reversed, tag) =>
      let text := reversed.reverse
      let inner := c.rest.drop (text.length + 2)
      let trim := trimMark inner
      let lead := dataToken (leadBefore tag trim c.before text)
      let start := c.advance (text.length + 2 + Trim.width trim)
      lead ++ match tag with
        | .comment =>
          match indexOf? ['#', '\x7d'] 0 start.rest with
          | none => [.bad .malformed]
          | some n =>
            let last := if n = 0 then [] else start.rest.drop (n - 1)
            outsideTags fuel ((start.advance (n + 2)).skipAfterTag (trimMark last))
        | .output =>
          let (tokens, after) := insideTag .output (start.rest.length + 1) start
          .showStart :: tokens ++ match after with
            | some c => outsideTags fuel c
            | none => []
        | .block =>
          match wordTag? "raw".toList start.rest with
          | some (n, opening) =>
            let body := start.advance n
            match rawEnd? 0 body.rest with
            | none => [.bad .malformed]
            | some (size, closing, trimAfter, width) =>
              .data (String.ofList (rawText opening closing (body.rest.take size)))
                :: outsideTags fuel ((body.advance (size + width)).skipAfterTag trimAfter)
          | none =>
            let (tokens, after) := insideTag .block (start.rest.length + 1) start
            .blockStart :: tokens ++ match after with
              | some c => outsideTags fuel c
              | none => []

end Lexer

/-- The text without the line end that closes its last line. -/
def dropLastLineEnd (cs : List Char) : List Char :=
  let drop (c : Char) (cs : List Char) : List Char :=
    if cs.getLast? == some c then cs.dropLast else cs
  drop '\r' (drop '\n' cs)

/-- The tokens of a template. -/
def tokens (source : String) : List Token :=
  let cs := dropLastLineEnd source.toList
  Lexer.outsideTags (cs.length + 1) { rest := cs }

end RowBindings.Template
