import RowBindings.Pattern.Reader

/-!
# Matching

What a pattern does to a set of positions: from the positions where a match may start to the
positions where it may end. A text matches if the pattern leads from some position of the text to
some other.
-/

namespace RowBindings.Pattern

/-- The positions of both lists, each once. -/
def mergePositions (a b : List Nat) : List Nat :=
  a ++ b.filter fun p => !a.contains p

/-- Applies a step up to `n` times, stopping early once the positions no longer change. -/
def iterate (step : List Nat → List Nat) : Nat → List Nat → List Nat
  | 0, ps => ps
  | n + 1, ps =>
    let next := step ps
    if next == ps then ps else iterate step n next

/-- The text as an array of code points, with what assertions ask about it. -/
structure Subject where
  codes : Array Nat

namespace Subject

/-- The code point at a position. -/
def code? (t : Subject) (p : Nat) : Option Nat :=
  t.codes[p]?

/-- The code point before a position. -/
def before? (t : Subject) (p : Nat) : Option Nat :=
  if p = 0 then none else t.codes[p - 1]?

private def isWord (plain : Bool) (code : Option Nat) : Bool :=
  match code with
  | some n => if plain then CharSet.plainWord.contains n else CharSet.word.contains n
  | none => false

/-- Whether an assertion holds at a position. -/
def holds (t : Subject) (p : Nat) : Assertion → Bool
  | .textStart => p == 0
  | .textEnd => p == t.codes.size
  | .lineStart false => p == 0 || t.before? p == some 0xA
  | .lineEnd false => p == t.codes.size || t.code? p == some 0xA
  | .lineStart true =>
    p == 0 || t.before? p == some 0xA || (t.before? p == some 0xD && t.code? p != some 0xA)
  | .lineEnd true =>
    p == t.codes.size || t.code? p == some 0xD
      || (t.code? p == some 0xA && t.before? p != some 0xD)
  | .wordBoundary plain => isWord plain (t.before? p) != isWord plain (t.code? p)
  | .notWordBoundary plain => isWord plain (t.before? p) == isWord plain (t.code? p)
  | .wordStart plain => !isWord plain (t.before? p) && isWord plain (t.code? p)
  | .wordEnd plain => isWord plain (t.before? p) && !isWord plain (t.code? p)
  | .wordStartHalf plain => !isWord plain (t.before? p)
  | .wordEndHalf plain => !isWord plain (t.code? p)

end Subject

/-- The positions where a match may end that starts at one of the given positions. -/
def Expr.run (t : Subject) : Expr → List Nat → List Nat
  | .empty, ps => ps
  | .set s, ps => (ps.filter fun p => (t.code? p).any s.contains).map (· + 1)
  | .assertion a, ps => ps.filter fun p => t.holds p a
  | .seq a b, ps => b.run t (a.run t ps)
  | .alt a b, ps => mergePositions (a.run t ps) (b.run t ps)
  | .repeated e min max, ps =>
    let bound := t.codes.size + 1
    let more := match max with
      | some m => Nat.min (m - min) bound
      | none => bound
    iterate (fun qs => mergePositions qs (e.run t qs)) more (iterate (e.run t) min ps)

/-- Whether some stretch of the text fits the pattern. -/
def Expr.isMatch (e : Expr) (text : String) : Bool :=
  let t : Subject := ⟨(text.toList.map Char.toNat).toArray⟩
  !(e.run t (List.range (t.codes.size + 1))).isEmpty

end RowBindings.Pattern
