import RowBindings.Pattern.CharSet

/-!
# Patterns

A pattern describes texts. It matches a text if some stretch of the text fits the description.
-/

namespace RowBindings.Pattern

/-- A condition on a position of the text. -/
inductive Assertion
  | textStart
  | textEnd
  /-- The start of a line; lines end at a line feed, and at a carriage return if `crlf` is set. -/
  | lineStart (crlf : Bool)
  | lineEnd (crlf : Bool)
  /-- Between a word character and another one; word characters of every script, or of the basic
  Latin block only. -/
  | wordBoundary (plain : Bool)
  | notWordBoundary (plain : Bool)
  | wordStart (plain : Bool)
  | wordEnd (plain : Bool)
  | wordStartHalf (plain : Bool)
  | wordEndHalf (plain : Bool)
  deriving DecidableEq, Repr

/-- A pattern. -/
inductive Expr
  | empty
  | set (s : CharSet)
  | assertion (a : Assertion)
  | seq (a b : Expr)
  | alt (a b : Expr)
  /-- At least `min` and, if there is a limit, at most `max` times. -/
  | repeated (e : Expr) (min : Nat) (max : Option Nat)

/-- A measure of the machine that a pattern takes. -/
def Expr.weight : Expr → Nat
  | .empty => 1
  | .set s => s.weight
  | .assertion _ => 1
  | .seq a b => a.weight + b.weight
  | .alt a b => a.weight + b.weight + 1
  | .repeated e min max => e.weight * (max.getD (min + 1)).max 1 + 1

end RowBindings.Pattern
