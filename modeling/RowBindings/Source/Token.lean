/-!
# Tokens

Source text as the grammar sees it: words, marks of punctuation, literals, and bracketed groups of
these. A mark of several characters is a run of marks each joined to the next.
-/

namespace RowBindings.Source

/-- The brackets that enclose a group. -/
inductive Bracket
  | round
  | square
  | curly
  deriving DecidableEq, Repr

namespace Bracket

/-- The opening bracket. -/
def opening : Bracket → String
  | round => "("
  | square => "["
  | curly => "\x7b"

/-- The closing bracket. -/
def closing : Bracket → String
  | round => ")"
  | square => "]"
  | curly => "\x7d"

/-- The bracket that a character opens. -/
def ofOpening? (c : Char) : Option Bracket :=
  if c = '(' then some round
  else if c = '[' then some square
  else if c = '\x7b' then some curly
  else none

/-- The bracket that a character closes. -/
def ofClosing? (c : Char) : Option Bracket :=
  if c = ')' then some round
  else if c = ']' then some square
  else if c = '\x7d' then some curly
  else none

end Bracket

/-- A token, or a group of tokens in brackets. -/
inductive Tree
  /-- An identifier or keyword. -/
  | word (name : String)
  /-- One character of punctuation, and whether another one follows it at once. An apostrophe
  belongs to the word after it. -/
  | mark (c : Char) (joined : Bool)
  /-- A literal as it is written. -/
  | literal (text : String)
  | group (bracket : Bracket) (trees : List Tree)
  deriving Repr, Inhabited

namespace Tree

/-- The words that are no identifiers. -/
def keywords : List String := [
  "_", "abstract", "as", "async", "await", "become", "box", "break", "const", "continue", "crate",
  "do", "dyn", "else", "enum", "extern", "false", "final", "fn", "for", "if", "impl", "in", "let",
  "loop", "macro", "match", "mod", "move", "mut", "override", "priv", "pub", "ref", "return",
  "Self", "self", "static", "struct", "super", "trait", "true", "try", "type", "typeof", "unsafe",
  "unsized", "use", "virtual", "where", "while", "yield"]

/-- Whether a word is an identifier. -/
def isName (word : String) : Bool :=
  !keywords.contains word

mutual

/-- The number of tokens and groups in a tree. -/
def size : Tree → Nat
  | .group _ trees => sizeAll trees + 1
  | _ => 1

/-- The number of tokens and groups in a list of trees. -/
def sizeAll : List Tree → Nat
  | [] => 0
  | t :: rest => size t + sizeAll rest

end

end Tree

end RowBindings.Source
