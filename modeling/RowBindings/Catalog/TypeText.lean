import RowBindings.Unicode.Blank
import RowBindings.Text.Words

/-!
# Type modifiers

The catalog writes a type with its length or precision in parentheses. What matches a type rule is
the type without them: `character varying(255)[]` is `character varying[]`.
-/

namespace RowBindings.Catalog

/-- The characters outside parentheses, `depth` of which are open. A parenthesis that closes none
is dropped. -/
def outsideParens (depth : Nat) : List Char → List Char
  | [] => []
  | c :: rest =>
    if c = '(' then outsideParens (depth + 1) rest
    else if c = ')' then outsideParens (depth - 1) rest
    else if depth = 0 then c :: outsideParens depth rest
    else outsideParens depth rest

/-- A type without parenthesised modifiers, single blanks between its words. -/
def stripModifiers (text : String) : String :=
  String.ofList
    (Text.joinWith [' '] (Unicode.blankSeparated (outsideParens 0 text.toList)))

end RowBindings.Catalog
