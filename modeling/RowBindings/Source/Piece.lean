import RowBindings.Source.Layout
import RowBindings.Source.Reading

/-!
# Pieces of source

What reading a phrase yields: its layout, and what the layout of the phrase around it depends on.
Reading and laying out go together, so that a phrase is never kept apart from its layout.
-/

namespace RowBindings.Source

/-- A path. -/
structure Path where
  layout : Doc
  /-- The only word of the path, if it is no more than that. -/
  only? : Option String := none
  /-- No part has arguments. -/
  isBare : Bool := true
  /-- A single part, whose arguments, if there are any, are in angle brackets. -/
  isSingle : Bool := false
  /-- The last part has arguments. -/
  endsInArguments : Bool := false
  /-- It starts with a type in angle brackets. -/
  isQualified : Bool := false

/-- A type. -/
structure TypePiece where
  layout : Doc
  /-- The path that the type is, unless it is something else. -/
  path? : Option Path := none
  /-- The type is one trait bound, or a path that could be one. -/
  isOneBound : Bool := false
  /-- The type stands in parentheses. -/
  isEnclosed : Bool := false

/-- A pattern. -/
structure PatternPiece where
  layout : Doc
  /-- A literal or the pattern that everything matches. -/
  isSimple : Bool := false
  /-- The two dots for all the rest. -/
  isRest : Bool := false
  /-- A range that is open on one side. -/
  isHalfOpen : Bool := false

/-- The layout of the body of a match arm or closure that gets braces if it does not fit. -/
def Doc.braced (addsSemicolon : Bool) (body : Doc) (isParseable : Bool) (after : Option Char) : Doc :=
  Doc.cbox Doc.indentation
    ([.gap { atEnd := some (if isParseable then '\x7b' else '(') }] ++ body ++
      [.gap {
        offset := -Doc.indentation
        atEnd := if isParseable && addsSemicolon then some ';' else none
        atStart :=
          if isParseable then "\x7d" else if after.isSome then ")," else ")"
        inLine := after }])

/-- An expression. -/
structure Expression where
  /-- The layout inside a line. -/
  layout : Doc
  /-- The layout at the start of a line. -/
  atLineStart : Doc := layout
  /-- The layout at the head of a chain of calls and fields. -/
  asHead : Doc := Doc.cbox (-Doc.indentation) layout
  /-- The same, at the start of a line. -/
  asFirstHead : Doc := asHead
  /-- The layout behind the arrow of a match arm, for a block and what counts as one. -/
  asArm? : Option Doc := none
  /-- The same with attributes before it. A block leaves them out. -/
  asArmAfterAttributes? : Option Doc := none
  /-- A word no longer than the indentation. -/
  isShort : Bool := false
  /-- It brings its own brackets, as the only argument of a call. -/
  isBlockLike : Bool := false
  /-- It needs no braces as the body of a closure. -/
  isClosureBody : Bool := isBlockLike
  /-- A comma or a semicolon has to stand between it and what follows. -/
  isOpenEnded : Bool := true
  /-- As a statement it gets a semicolon. -/
  addsSemicolon : Bool := false
  /-- As a statement it loses its semicolon. -/
  dropsSemicolon : Bool := false
  /-- In braces it means the same. -/
  isParseable : Bool := true
  /-- A condition that is wrapped gets its block on a line of its own. -/
  wraps : Bool := false
  /-- A number, character, byte or truth value. -/
  isSimple : Bool := false
  isRange : Bool := false
  isComparison : Bool := false
  /-- Its last character is a closing brace. -/
  endsInBrace : Bool := false
  /-- Its brackets, if it is an invocation. -/
  invocation? : Option Bracket := none

namespace Expression

/-- Whether a semicolon has to stand between it and the next statement. -/
def needsSemicolon (e : Expression) : Bool :=
  match e.invocation? with
  | some b => b != .curly
  | none => e.isOpenEnded

/-- The layout behind the arrow of a match arm. -/
def asArm (e : Expression) : Doc :=
  e.asArm?.getD <|
    Doc.word " " ++ Doc.noBreak ++
      Doc.braced e.addsSemicolon e.atLineStart e.isParseable
        (if e.isOpenEnded then some ',' else none)

/-- The layout as the condition before a block. -/
def asCondition (e : Expression) : Doc :=
  Doc.cbox 0 (e.layout ++ if e.wraps then Doc.space else Doc.word " ")

/-- An expression with attributes before it. -/
def after (attributes : Doc) (e : Expression) : Expression :=
  if attributes.isEmpty then e
  else
    { e with
      layout := attributes ++ e.layout
      atLineStart := attributes ++ e.atLineStart
      asHead := attributes ++ e.asHead
      asFirstHead := attributes ++ e.asFirstHead
      asArm? := e.asArmAfterAttributes?
      isShort := false
      isBlockLike := false
      isClosureBody := false }

end Expression

/-- Statements in braces. -/
structure Block where
  isEmpty : Bool
  /-- The statements, each with its line end. -/
  lines : Doc
  /-- The only statement, if it is an expression without a semicolon. -/
  tail? : Option Expression := none

namespace Block

/-- The layout in braces, on one line if it fits. -/
def small (attributes : Doc) (b : Block) : Doc :=
  Doc.word "\x7b" ++
    (if attributes.isEmpty && b.isEmpty then []
    else
      Doc.space ++ attributes ++
        (match b.tail? with
        | some e => Doc.ibox 0 e.atLineStart ++ Doc.space
        | none => b.lines) ++ Doc.dedent) ++
    Doc.word "\x7d"

/-- The layout of what stands in braces, on lines of its own. -/
def tall (attributes : Doc) (b : Block) : Doc :=
  Doc.cbox Doc.indentation (Doc.newlineIfFollowed ++ attributes ++ b.lines ++ Doc.dedent)

end Block

/-- The readers that the parts of the grammar use of one another. -/
structure Readers where
  /-- An expression; the literal of a structure is one only if that is allowed. -/
  expression : Bool → Reader Expression
  /-- An expression up to the first operator between two operands. -/
  operand : Bool → Reader Expression
  /-- An expression that ends where a statement may end, after attributes. -/
  clause : Doc → Reader Expression
  /-- A type; several bounds are one only if that is allowed. -/
  type : Bool → Reader TypePiece
  /-- A bound on a type. -/
  bound : Reader Doc
  /-- A pattern without alternatives. -/
  pattern : Reader PatternPiece
  /-- The attributes inside of braces, and the statements in them. -/
  statements : Reader (Doc × Block)
  /-- A declaration after its attributes, which it writes first. -/
  item : Doc → Reader Doc

namespace Readers

/-- A block, with the attributes inside of it. -/
def block (r : Readers) : Reader (Doc × Block) := Reader.inGroup .curly r.statements

/-- A block without attributes inside of it. -/
def plainBlock (r : Readers) : Reader Block := do
  let (attributes, b) ← r.block
  Reader.ensure attributes.isEmpty
  return b

end Readers

end RowBindings.Source
