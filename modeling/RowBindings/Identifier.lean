import RowBindings.Text.Words

/-!
# Identifiers for database names

Turns a name taken from the database into an identifier of the generated source: a type name, in
capitals at the start of each word, or a field name, in lower case with underscores. Whatever is
not a letter, digit or underscore of the basic Latin block becomes an underscore, a leading digit
gets an underscore before it, and names that the generated language keeps for itself are escaped.
-/

namespace RowBindings.Identifier

/-- Words that become identifiers when `r#` is written before them. -/
def keywords : List String := [
  "abstract", "as", "async", "await", "become", "box", "break", "const", "continue", "do", "dyn",
  "else", "enum", "extern", "false", "final", "fn", "for", "gen", "if", "impl", "in", "let", "loop",
  "macro", "match", "mod", "move", "mut", "override", "priv", "pub", "ref", "return", "static",
  "struct", "trait", "true", "try", "type", "typeof", "unsafe", "unsized", "use", "virtual",
  "where", "while", "yield"]

/-- Words that are no identifiers even with `r#` before them. -/
def reserved : List String := ["crate", "self", "Self", "super", "_"]

/-- A letter or digit of the basic Latin block, or an underscore. -/
def isPlain (c : Char) : Bool :=
  c.isAlphanum || c == '_'

/-- Puts an underscore before a leading digit. -/
def guardDigit : List Char → List Char
  | [] => []
  | c :: rest => if c.isDigit then '_' :: c :: rest else c :: rest

/-- Replaces every character that no identifier has by an underscore. -/
def sanitize (name : List Char) : List Char :=
  guardDigit (name.map fun c => if isPlain c then c else '_')

/-- Keeps an identifier apart from the words of the language: an underscore after a reserved word,
`r#` before a keyword. -/
def escape (name : String) : String :=
  if name ∈ reserved then name ++ "_"
  else if name ∈ keywords then "r#" ++ name
  else name

/-- The name of the type for a table, an enumeration or a label. -/
def typeName (name : String) : String :=
  match sanitize (Text.toPascal name.toList) with
  | [] => "Empty"
  | cs => escape (String.ofList cs)

/-- Non-empty, and made of lower-case letters, digits and underscores only. -/
def isSnake (name : List Char) : Bool :=
  !name.isEmpty && name.all fun c => c.isLower || c.isDigit || c == '_'

/-- The name of the field for a column. A name in lower case with underscores is kept. -/
def fieldName (name : String) : String :=
  let cs := name.toList
  match sanitize (if isSnake cs then cs else Text.toSnake cs) with
  | [] => "field_"
  | cs => escape (String.ofList cs)

end RowBindings.Identifier
