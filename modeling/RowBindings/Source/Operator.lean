import RowBindings.Source.Expression

/-!
# Operators

How tightly operators bind, and the expressions made with them. What binds more tightly becomes an
operand of what binds less; operators of one level group to the left, assignments to the right.
Comparisons do not follow one another, and a range is no operand of what follows it.
-/

namespace RowBindings.Source

open Reader

namespace Operator

/-- The levels of operators: a higher one binds more tightly. -/
inductive Level
  | lowest
  | assignment
  | range
  | or
  | and
  | binding
  | comparison
  | bitOr
  | bitXor
  | bitAnd
  | shift
  | sum
  | product
  | conversion
  deriving DecidableEq, Repr

/-- The place of a level in their order. -/
def Level.rank (level : Level) : Nat := level.ctorIdx

/-- The operators between two operands. One that starts like another comes before it if it is
longer. -/
def all : List (String × Level) := [
  ("+=", .assignment), ("-=", .assignment), ("*=", .assignment), ("/=", .assignment),
  ("%=", .assignment), ("^=", .assignment), ("&=", .assignment), ("|=", .assignment),
  ("<<=", .assignment), (">>=", .assignment), ("&&", .and), ("||", .or), ("<<", .shift),
  (">>", .shift), ("==", .comparison), ("<=", .comparison), ("!=", .comparison),
  (">=", .comparison), ("+", .sum), ("-", .sum), ("*", .product), ("/", .product),
  ("%", .product), ("^", .bitXor), ("&", .bitAnd), ("|", .bitOr), ("<", .comparison),
  (">", .comparison)]

/-- The operator that is ahead. -/
def ahead? (ts : List Tree) : Option (String × Level) :=
  all.find? fun (text, _) => Ahead.mark text ts

/-- Whether the sign of an assignment is ahead. -/
def seesAssignment (ts : List Tree) : Bool := Ahead.mark "=" ts && !Ahead.mark "=>" ts

/-- The level of what is ahead, the lowest if it is no operator. -/
def levelAhead (ts : List Tree) : Level :=
  match ahead? ts with
  | some (_, level) => level
  | none =>
    if seesAssignment ts then .assignment
    else if Ahead.mark ".." ts then .range
    else if Ahead.word "as" ts then .conversion
    else .lowest

/-- An operand, a place, and what follows it. -/
def spread (left right : Doc) : Doc :=
  Doc.ibox Doc.indentation (Doc.ibox (-Doc.indentation) left ++ Doc.space ++ right)

/-- Two operands with an operator between them. -/
def binary (left : Expression) (text : String) (level : Level) (right : Expression) :
    Expression where
  layout := spread left.layout (Doc.word text ++ Doc.word " " ++ right.layout)
  addsSemicolon := level == .assignment
  isParseable := left.needsSemicolon && left.isParseable
  wraps := true
  isComparison := level == .comparison
  endsInBrace := right.endsInBrace

/-- An assignment. -/
def assignment (left right : Expression) : Expression where
  layout := Doc.ibox 0 (left.layout ++ Doc.word " = " ++ Doc.noBreak ++ right.layout)
  addsSemicolon := true
  isParseable := left.isParseable
  wraps := true
  endsInBrace := right.endsInBrace

/-- A conversion to a type. -/
def conversion (e : Expression) (t : TypePiece) : Expression where
  layout := spread e.layout (Doc.word "as " ++ t.layout)
  isParseable := e.needsSemicolon && e.isParseable
  wraps := true

/-- A range. -/
def range (start : Option Expression) (dots : String) (last : Option Expression) : Expression where
  layout := (start.map (·.layout)).getD (Doc.blankAfter '.') ++ Doc.word dots ++
    (last.map (·.layout)).getD []
  isParseable := start.all fun e => e.needsSemicolon && e.isParseable
  wraps := last.any (·.wraps)
  isRange := true
  endsInBrace := last.any (·.endsInBrace)

/-- Takes the dots of a range. -/
def dots : Reader String := do
  if ← mark? "..=" then return "..="
  else
    ensure !(← sees (Ahead.mark "..."))
    mark ".."
    return ".."

/-- Whether a range of two dots has no end. -/
def seesRangeEnd (structures : Bool) (ts : List Tree) : Bool :=
  ts.isEmpty || Expression.seesPoint ts || (!structures && Ahead.group .curly ts)
    || ([",", ";", "?", "=>", "=", "+", "/", "%", "^", ">", "<=", "!=", "-=", "*=", "&=", "|=",
      "<<="].any fun text => Ahead.mark text ts)
    || Ahead.word "as" ts

/-- Whether something is ahead that must not follow a type one converts to. -/
def seesTrailer (ts : List Tree) : Bool :=
  Expression.seesPoint ts || Ahead.mark "?" ts || Ahead.group .square ts || Ahead.group .round ts

mutual

/-- Reads operators of a level or above and their operands, after a first one. -/
def climb (r : Readers) (structures : Bool) : Nat → Expression → Level → Reader Expression
  | 0, _, _ => failure
  | fuel + 1, left, base => do
    let ts ← ahead
    if left.isRange then return left
    match ahead? ts with
    | some (text, level) =>
      if level.rank < base.rank then return left
      ensure !(level == .comparison && left.isComparison)
      mark text
      let right ← rightOperand r structures fuel level
      climb r structures fuel (binary left text level right) base
    | none =>
      if base.rank ≤ Level.assignment.rank && seesAssignment ts then
        mark "="
        let right ← rightOperand r structures fuel .assignment
        climb r structures fuel (assignment left right) base
      else if base.rank ≤ Level.range.rank && Ahead.mark ".." ts then
        let text ← dots
        let last ← rangeEnd r structures fuel text
        climb r structures fuel (range (some left) text last) base
      else if Ahead.word "as" ts then
        word "as"
        let t ← r.type false
        ensure !(← sees seesTrailer)
        climb r structures fuel (conversion left t) base
      else return left

/-- Reads the end of a range after its dots. -/
def rangeEnd (r : Readers) (structures : Bool) : Nat → String → Reader (Option Expression)
  | 0, _ => failure
  | fuel + 1, text => do
    if text == ".." && seesRangeEnd structures (← ahead) then return none
    else return some (← rightOperand r structures fuel .range)

/-- Reads the right operand of an operator. -/
def rightOperand (r : Readers) (structures : Bool) : Nat → Level → Reader Expression
  | 0, _ => failure
  | fuel + 1, level => do
    raise r structures fuel (← r.operand structures) level

/-- Reads what binds an operand more tightly than the operator before it. -/
def raise (r : Readers) (structures : Bool) : Nat → Expression → Level → Reader Expression
  | 0, _, _ => failure
  | fuel + 1, right, level => do
    let before ← ahead
    let next := levelAhead before
    if level.rank < next.rank || (next == level && level == .assignment) then
      let right ← climb r structures fuel right next
      if (← ahead).length == before.length then return right
      else raise r structures fuel right level
    else return right

end

/-- Reads operators and operands after a first one. -/
def after (r : Readers) (structures : Bool) (base : Level) (left : Expression) :
    Reader Expression := do
  climb r structures (4 * (← ahead).length + 4) left base

/-- Reads an expression that binds names, after its first word. -/
def bindingExpression (r : Readers) (structures : Bool) : Reader Expression := do
  let p ← PatternPiece.alternatives r
  mark "="
  let value ← after r structures .comparison (← r.operand structures)
  return {
    layout := Doc.ibox 0
      (Doc.word "let " ++ Doc.ibox 0 p.layout ++ Doc.word " = " ++ Doc.noBreak ++
        Doc.ibox 0 value.layout)
    wraps := value.wraps
    endsInBrace := value.endsInBrace }

/-- An operator before its operand. -/
def unary (text : String) (e : Expression) : Expression where
  layout := Doc.word text ++ e.layout
  wraps := e.wraps
  endsInBrace := e.endsInBrace

/-- Reads what follows the sign of a reference. -/
def reference (r : Readers) (structures : Bool) : Reader Expression := do
  let ts ← ahead
  let start ←
    if Ahead.word "raw" ts && Ahead.anyOf ["mut", "const"] (ts.drop 1) then do
      pure ((← anyWord) ++ " " ++ (← anyWord) ++ " ")
    else if ← word? "mut" then pure "mut "
    else pure ""
  return unary ("&" ++ start) (← r.operand structures)

/-- Reads an expression up to the first operator between two operands. -/
def operand (r : Readers) (structures : Bool) : Reader Expression := do
  let attributes ← Attribute.outer r
  let e ←
    if ← mark? "&" then reference r structures
    else if ← mark? "*" then do pure (unary "*" (← r.operand structures))
    else if ← mark? "!" then do pure (unary "!" (← r.operand structures))
    else if ← mark? "-" then do pure (unary "-" (← r.operand structures))
    else if ← word? "let" then do
      Expression.trailers r (← bindingExpression r structures)
    else if ← sees (Ahead.mark "..") then do
      let text ← dots
      let last ← rangeEnd r structures (4 * (← ahead).length + 4) text
      Expression.trailers r (range none text last)
    else do
      Expression.trailers r (← Expression.atom r structures)
  ensure (attributes.isEmpty || !e.isRange)
  return e.after attributes

/-- Reads an expression. -/
def expression (r : Readers) (structures : Bool) : Reader Expression := do
  after r structures .lowest (← r.operand structures)

/-- Whether an expression that ends with its block is ahead. -/
def seesBlockExpression (ts : List Tree) : Bool :=
  let next := ts.drop 1
  Ahead.anyOf ["if", "while", "loop", "match", "unsafe"] ts || Ahead.group .curly ts
    || Ahead.lifetime ts || (Ahead.word "for" ts && !Generics.seesParameters next)
    || Expression.seesBlockAfter "try" ts || Expression.seesBlockAfter "const" ts

/-- Reads an expression that ends where a statement may end: after a block nothing is an operator
of two operands, but a point or question mark goes on with it. Attributes, those given first, belong
to the first operand. -/
def clause (r : Readers) (attributes : Doc) : Reader Expression := do
  let attributes := attributes ++ (← Attribute.outer r)
  let e ←
    if ← sees seesBlockExpression then Expression.atom r true
    else r.operand true
  if e.isOpenEnded then after r true .lowest (e.after attributes)
  else
    let ts ← ahead
    if Expression.seesPoint ts || Ahead.mark "?" ts then
      after r true .lowest ((← Expression.trailers r e).after attributes)
    else return e.after attributes

end Operator

end RowBindings.Source
