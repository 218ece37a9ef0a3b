import RowBindings.Text.Words

/-!
# Names in statements

A name is written bare if it is made of lower-case letters, digits and underscores, does not start
with a digit and is no word that the query language keeps for itself. Any other name is written
between double quotes, with each quote in it doubled.
-/

namespace RowBindings.Statement

/-- Words that the query language keeps for itself. -/
def reservedWords : List String := [
  "all", "analyse", "analyze", "and", "any", "array", "as", "asc", "asymmetric", "authorization",
  "binary", "both", "case", "cast", "check", "collate", "collation", "column", "concurrently",
  "constraint", "create", "cross", "current_catalog", "current_date", "current_role",
  "current_schema", "current_time", "current_timestamp", "current_user", "default", "deferrable",
  "desc", "distinct", "do", "else", "end", "except", "false", "fetch", "for", "foreign", "freeze",
  "from", "full", "grant", "group", "having", "ilike", "in", "initially", "inner", "intersect",
  "into", "is", "isnull", "join", "lateral", "leading", "left", "like", "limit", "localtime",
  "localtimestamp", "natural", "not", "notnull", "null", "offset", "on", "only", "or", "order",
  "outer", "overlaps", "placing", "primary", "references", "returning", "right", "select",
  "session_user", "similar", "some", "symmetric", "system_user", "table", "tablesample", "then",
  "to", "trailing", "true", "union", "unique", "user", "using", "variadic", "verbose", "when",
  "where", "window", "with"]

/-- Characters a bare name starts with. -/
def isBareStart (c : Char) : Bool :=
  c.isLower || c == '_'

/-- Characters of a bare name. -/
def isBareChar (c : Char) : Bool :=
  c.isLower || c.isDigit || c == '_'

/-- Whether a name may be written bare. -/
def isBare (name : List Char) : Bool :=
  (match name with
    | [] => false
    | c :: _ => isBareStart c)
  && name.all isBareChar
  && !reservedWords.contains (String.ofList name)

/-- The text with each double quote doubled. -/
def doubleQuotes : List Char → List Char
  | [] => []
  | c :: rest => if c = '"' then '"' :: '"' :: doubleQuotes rest else c :: doubleQuotes rest

/-- A name as it is written in a statement. -/
def nameText (name : List Char) : List Char :=
  if isBare name then name else '"' :: doubleQuotes name ++ ['"']

end RowBindings.Statement
