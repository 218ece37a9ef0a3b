import RowBindings.Source.Operator

/-!
# Statements

What stands in the braces of a function: bindings, declarations, and expressions with or without
a semicolon after them.
-/

namespace RowBindings.Source

open Reader

/-- A statement. -/
structure Statement where
  /-- The layout with the line end. -/
  layout : Doc
  /-- The expression, if no semicolon stands after it. -/
  tail? : Option Expression := none
  /-- Nothing may follow it. -/
  isLast : Bool := false

namespace Statement

/-- Reads a binding after its first word. -/
def binding (r : Readers) (attributes : Doc) : Reader Statement := do
  let p ← r.pattern
  let type ← if ← mark? ":" then do
      pure (Doc.word ": " ++ (← r.type true).layout)
    else pure []
  let start := Doc.word "let " ++ p.layout ++ type
  if ← mark? "=" then
    let value ← r.expression true
    let start := start ++ Doc.word " = " ++ Doc.noBreak ++ value.layout
    if !value.endsInBrace && (← word? "else") then
      let b ← r.plainBlock
      mark ";"
      return {
        layout := attributes ++ Doc.ibox 0 (start ++ Doc.space ++ Doc.word "else ") ++ Doc.noBreak ++
          Doc.cbox Doc.indentation (b.small [] ++ Doc.word ";") ++ Doc.newline }
    else
      mark ";"
      return { layout := attributes ++ Doc.ibox 0 (start ++ Doc.word ";") ++ Doc.newline }
  else
    mark ";"
    return { layout := attributes ++ Doc.ibox 0 (start ++ Doc.word ";") ++ Doc.newline }

/-- An invocation as a statement, which keeps its semicolon. -/
def invocation (layout : Doc) (closed : Bool) : Statement where
  layout := layout ++ (if closed then Doc.word ";" else []) ++ Doc.newline

/-- Reads an expression as a statement. -/
def expression (r : Readers) (attributes : Doc) : Reader Statement := do
  let e ← r.clause attributes
  let closed ← mark? ";"
  match e.invocation?, closed with
  | some _, true => return invocation e.layout true
  | some .curly, false => return invocation e.layout false
  | _, true =>
    return {
      layout := Doc.ibox 0
        (e.atLineStart ++ if e.dropsSemicolon then [] else Doc.word ";") ++ Doc.newline }
  | _, false =>
    return {
      layout := Doc.ibox 0
        (e.atLineStart ++ if e.addsSemicolon then Doc.word ";" else []) ++ Doc.newline
      tail? := some e
      isLast := e.needsSemicolon }

/-- Whether an invocation that is a statement by itself is ahead, or one that declares a name.
Gives the path of the first and what follows it. -/
def seesInvocation (ts : List Tree) : Option (Bool × Path × List Tree) := do
  let (path, rest) ← Path.bare ts
  let next := rest.drop 1
  if !Ahead.mark "!" rest then none
  else if Ahead.name next || Ahead.word "try" next then some (true, path, rest)
  else if Ahead.group .curly next
      && !(Expression.seesPoint (next.drop 1) || Ahead.mark "?" (next.drop 1)) then
    some (false, path, rest)
  else none

/-- Whether a declaration is ahead. -/
def seesItem (ts : List Tree) : Bool :=
  let next := ts.drop 1
  let third := next.drop 1
  Ahead.anyOf ["pub", "extern", "use", "fn", "mod", "type", "struct", "enum", "trait", "impl",
      "macro"] ts
    || (Ahead.word "crate" ts && !Ahead.mark "::" next)
    || (Ahead.word "static" ts &&
      (Ahead.word "mut" next ||
        (Ahead.name next &&
          !(Ahead.word "async" next && (Ahead.word "move" third || Ahead.mark "|" third)))))
    || (Ahead.word "const" ts &&
      !(Ahead.group .curly next || Ahead.word "static" next
        || (Ahead.word "async" next && !Ahead.anyOf ["unsafe", "extern", "fn"] third)
        || Ahead.word "move" next || Ahead.mark "|" next))
    || (Ahead.word "unsafe" ts && !Ahead.group .curly next)
    || (Ahead.word "async" ts && Ahead.anyOf ["unsafe", "extern", "fn"] next)
    || (Ahead.word "union" ts && Ahead.name next)
    || (Ahead.word "auto" ts && Ahead.word "trait" next)
    || (Ahead.word "default" ts && Ahead.anyOf ["unsafe", "impl"] next)

/-- Reads a statement. -/
def read (r : Readers) : Reader Statement := do
  let attributes ← Attribute.outer r
  let ts ← ahead
  match seesInvocation ts with
  | some (false, path, rest) =>
    set rest
    mark "!"
    let (b, inner) ← anyGroup
    let closed ← mark? ";"
    return invocation (attributes ++ Invocation.layout path.layout none b inner false) closed
  | some (true, _, _) => return { layout := ← r.item attributes }
  | none =>
    if ← word? "let" then binding r attributes
    else if seesItem ts then return { layout := ← r.item attributes }
    else expression r attributes

/-- Reads statements up to the end. Semicolons by themselves are left out. -/
def all (r : Readers) : Reader (List Statement) := do
  go ((← ahead).length + 1)
where
  go : Nat → Reader (List Statement)
    | 0 => failure
    | fuel + 1 => do
      if ← mark? ";" then return { layout := [] } :: (← go fuel)
      else if (← ahead).isEmpty then return []
      else
        let s ← read r
        ensure (!s.isLast || (← ahead).isEmpty)
        return s :: (← go fuel)

/-- Statements as the inside of a block. -/
def toBlock (ss : List Statement) : Block where
  isEmpty := ss.isEmpty
  lines := (ss.map (·.layout)).flatten
  tail? := match ss with
    | [s] => s.tail?
    | _ => none

/-- Reads the attributes inside of braces, and the statements in them. -/
def block (r : Readers) : Reader (Doc × Block) := do
  let attributes ← Attribute.inner r
  return (attributes, toBlock (← all r))

end Statement

end RowBindings.Source
