import RowBindings.Source.Layout
import RowBindings.Source.Reading

/-!
# Token trees that stay as they are

What stands in the brackets of an invocation `name!(…)` has no grammar of its own. Its tokens are
laid out one after the other, with blanks chosen by the two tokens that meet.
-/

namespace RowBindings.Source

open Reader

namespace Invocation

/-- What the token just written was, as far as the next one depends on it. -/
inductive Last
  | start
  | dollar
  /-- `$crate`. -/
  | dollarCrate
  /-- `$name` in a rule's pattern. -/
  | dollarName
  /-- `$name:`. -/
  | dollarColon
  /-- `$(…)`. -/
  | repeated
  /-- `$(…)` and its separator. -/
  | repeatedBy
  | hash
  | hashBang
  | dot
  | colon
  | pathColon
  | name
  | nameBang
  | closed
  | other
  deriving DecidableEq, Repr

/-- The words after which brackets, points and colons stand apart. -/
def spacedWords : List String := [
  "as", "async", "await", "box", "break", "const", "continue", "crate", "dyn", "else", "enum",
  "extern", "fn", "for", "if", "impl", "in", "let", "loop", "macro", "match", "mod", "move", "mut",
  "pub", "ref", "return", "static", "struct", "trait", "type", "unsafe", "use", "where", "while",
  "yield"]

/-- Whether a blank belongs before a token, and what the token is to the next one. -/
def Last.before (inPattern : Bool) (last : Last) (t : Tree) : Bool × Last :=
  match last, t with
  | .dollar, .word w =>
    (false, if inPattern then .dollarName else if w == "crate" then .dollarCrate else .other)
  | .dollarName, .mark ':' false => (false, .dollarColon)
  | .dollarColon, .word _ => (false, .other)
  | .repeated, .mark '+' false | .repeated, .mark '*' false | .repeated, .mark '?' false =>
    (false, .other)
  | .repeated, .word _ | .repeated, .literal _ => (false, .repeatedBy)
  | .repeated, .mark _ true => (false, .repeated)
  | .repeated, .mark _ false => (false, .repeatedBy)
  | .repeatedBy, .mark '+' _ | .repeatedBy, .mark '*' _ => (false, .other)
  | .hash, .mark '!' _ => (false, .hashBang)
  | .dollar, .group .round _ => (false, .repeated)
  | .hash, .group .square _ | .hashBang, .group .square _ => (false, .other)
  | .name, .group .round _ | .name, .group .square _ => (false, .closed)
  | .name, .mark '!' false => (false, .nameBang)
  | .nameBang, .group .round _ | .nameBang, .group .square _ => (false, .other)
  | .colon, .mark ':' _ => (false, .pathColon)
  | _, .group .round _ | _, .group .square _ => (true, .closed)
  | _, .group .curly _ => (true, .other)
  | last, .word w =>
    if spacedWords.contains w then (true, .other) else (last != .dot && last != .pathColon, .name)
  | last, .literal text =>
    (last != .dot, if text.toList.getLast? == some '.' then .other else .name)
  | last, .mark c joined =>
    if c == ',' || c == ';' then (false, .other)
    else if c == '.' && !inPattern then (last != .name && last != .closed, .dot)
    else if c == ':' && joined then (last != .name && last != .dollarCrate, .colon)
    else if c == '$' then (true, .dollar)
    else if c == '#' then (true, .hash)
    else (true, .other)

/-- The place before a token, after one that was not joined to it. -/
def placeBefore (needsBlank : Bool) (t : Tree) : Doc :=
  if needsBlank then Doc.space
  else match t with
    | .mark '.' _ => Doc.zero
    | _ => []

/-- Whether the next token follows at once. -/
def isJoined : Tree → Bool
  | .mark c joined => joined || c == '$'
  | _ => false

/-- The layout of tokens. -/
def tokens (inPattern : Bool) : Last → Bool → List Tree → Doc
  | _, _, [] => []
  | last, joined, t :: rest =>
    let (needsBlank, after) := last.before inPattern t
    let place := if joined then [] else placeBefore needsBlank t
    let written : Doc := match t with
      | .word w => Doc.word w
      | .mark c _ => Doc.word c.toString
      | .literal text => Doc.word text
      | .group b inner =>
        let pad := if b == .curly && !inner.isEmpty then Doc.space else []
        Doc.word b.opening ++ pad ++ tokens inPattern .start true inner ++ pad ++
          Doc.word b.closing
    place ++ written ++ tokens inPattern after (isJoined t) rest

/-- The layout of what stands in brackets, on lines of its own if it does not fit. -/
def body (edge : Doc) (inPattern : Bool) (ts : List Tree) : Doc :=
  if ts.isEmpty then []
  else
    Doc.cbox Doc.indentation
      (edge ++ Doc.ibox 0 (tokens inPattern .start true ts) ++ edge ++ Doc.dedent)

/-- The pattern of a rule. -/
def rulePattern (b : Bracket) (pattern : List Tree) : Doc :=
  Doc.word b.opening ++ body Doc.zero true pattern ++ Doc.word b.closing

/-- The arrow of a rule. -/
def ruleArrow : Doc := Doc.word " =" ++ Doc.word ">"

/-- The rules of a definition by rules: pattern, `=>`, result, with a semicolon after each. The last
one may lack its result, or the arrow too. -/
def rules : Nat → List Tree → Option Doc
  | 0, _ => none
  | _, [] => some []
  | _, [.group b pattern] => some (rulePattern b pattern ++ Doc.newline)
  | _, [.group b pattern, .mark '=' true, .mark '>' false] =>
    some (rulePattern b pattern ++ ruleArrow ++ Doc.newline)
  | fuel + 1, .group b pattern :: .mark '=' true :: .mark '>' false :: .group _ result :: rest => do
    let rule := rulePattern b pattern ++ ruleArrow ++ Doc.word " \x7b" ++ Doc.noBreak ++
      body Doc.newline false result ++ Doc.word "\x7d" ++ Doc.word ";" ++ Doc.newline
    match rest with
    | [] => return rule
    | .mark ';' false :: rest => return rule ++ (← rules fuel rest)
    | _ => none
  | _, _ => none

/-- A definition by rules. -/
def definition (name : String) (ts : List Tree) : Option Doc := do
  let rules ← rules (ts.length + 1) ts
  return Doc.word "macro_rules! " ++ Doc.word name ++ Doc.word " \x7b" ++
    Doc.cbox Doc.indentation (Doc.newlineIfFollowed ++ rules ++ Doc.dedent) ++ Doc.word "\x7d"

/-- An invocation: its path, the name it gives to something, and the bracketed tokens. -/
def layout (path : Doc) (name : Option String) (b : Bracket) (ts : List Tree)
    (semicolon : Bool) : Doc :=
  let edge := if b == .curly then Doc.newline else Doc.zero
  path ++ Doc.word "!" ++
    (match name with
    | some n => Doc.word " " ++ Doc.word n
    | none => []) ++
    Doc.word (if b == .curly then " \x7b" else b.opening) ++ body edge false ts ++
    Doc.word b.closing ++ (if semicolon && b != .curly then Doc.word ";" else [])

end Invocation

end RowBindings.Source
