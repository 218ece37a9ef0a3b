import RowBindings.Source.Item
import RowBindings.Source.Lexer

/-!
# Source files

The grammar tied together, and the formatter: text that is a source file is laid out anew; any
other text is refused.
-/

namespace RowBindings.Source

open Reader

/-- The readers, whose nesting `fuel` bounds. -/
def readersWithin : Nat → Readers
  | 0 => {
      expression := fun _ => failure
      operand := fun _ => failure
      clause := fun _ => failure
      type := fun _ => failure
      bound := failure
      pattern := failure
      statements := failure
      item := fun _ => failure }
  | fuel + 1 => {
      expression := fun structures ts => Operator.expression (readersWithin fuel) structures ts
      operand := fun structures ts => Operator.operand (readersWithin fuel) structures ts
      clause := fun attributes ts => Operator.clause (readersWithin fuel) attributes ts
      type := fun several ts => TypePiece.read (readersWithin fuel) several ts
      bound := fun ts => Generics.bound (readersWithin fuel) ts
      pattern := fun ts => PatternPiece.read (readersWithin fuel) ts
      statements := fun ts => Statement.block (readersWithin fuel) ts
      item := fun attributes ts => Item.read (readersWithin fuel) attributes ts }

/-- Reads the declarations of a file. -/
def file (r : Readers) : Reader Doc := do
  let attributes ← Attribute.inner r
  let items ← toEnd do r.item (← Attribute.outer r)
  return attributes ++ items.flatten

/-- A text without the mark of its byte order. -/
def withoutByteOrderMark : List Char → List Char
  | c :: rest => if c.toNat == 0xFEFF then rest else c :: rest
  | [] => []

/-- The first line of a script, which names its interpreter, and the rest of it. An attribute inside
the file starts the same way and is no such line. -/
def splitInterpreter (text : List Char) : Option (List Char) × List Char :=
  match text with
  | '#' :: '!' :: rest =>
    let fuel := text.length + 2
    let after := (skipSeparators fuel fuel { rest := rest }).rest
    if after.head? == some '[' then (none, text)
    else
      let line := text.takeWhile (· != '\n')
      (some line, text.drop line.length)
  | _ => (none, text)

/-- The layout of a source file, unless the text is none. -/
def fileLayout (text : String) : Option Doc := do
  let (interpreter, rest) := splitInterpreter (withoutByteOrderMark text.toList)
  let trees ← lex (withoutByteOrderMark rest)
  match file (readersWithin (4 * Tree.sizeAll trees + 8)) trees with
  | some (d, []) =>
    let start := match interpreter with
      | some line => Doc.word (String.ofList line) ++ Doc.newline
      | none => []
    return Doc.cbox 0 (start ++ d)
  | _ => none

/-- A source file laid out anew, unless the text is none. -/
def format (text : String) : Option String :=
  (fileLayout text).map Layout.render

end RowBindings.Source
