/-!
# Sets of code points

A character property is a set of code points, kept as ascending inclusive ranges. The tables write
the ranges in hexadecimal, `"41-5A 61-7A"`, and `CodeRanges.ofText` reads them.
-/

namespace RowBindings.Unicode

/-- Ascending inclusive ranges of code points. -/
structure CodeRanges where
  ranges : Array (Nat × Nat)

namespace CodeRanges

/-- The value of a hexadecimal digit. -/
def hexDigit? (c : Char) : Option Nat :=
  if '0' ≤ c ∧ c ≤ '9' then some (c.toNat - '0'.toNat)
  else if 'a' ≤ c ∧ c ≤ 'f' then some (c.toNat - 'a'.toNat + 10)
  else if 'A' ≤ c ∧ c ≤ 'F' then some (c.toNat - 'A'.toNat + 10)
  else none

/-- One range being read: its lower end once a dash has been seen, and the number so far. -/
private structure Reading where
  low : Option Nat := none
  value : Option Nat := none
  done : Array (Nat × Nat) := #[]

private def Reading.flush (r : Reading) : Reading :=
  match r.value with
  | none => { done := r.done }
  | some v => { done := r.done.push (r.low.getD v, v) }

private def Reading.step (r : Reading) (c : Char) : Reading :=
  match hexDigit? c with
  | some d => { r with value := some (r.value.getD 0 * 16 + d) }
  | none => if c = '-' then { r with low := r.value, value := none } else r.flush

/-- Reads hexadecimal ranges separated by blanks. -/
def ofText (text : String) : CodeRanges :=
  ⟨(text.foldl Reading.step {}).flush.done⟩

/-- Whether a code point lies in one of the ranges. -/
def containsCode (s : CodeRanges) (n : Nat) : Bool :=
  s.ranges.any fun (low, high) => low ≤ n && n ≤ high

/-- Whether a character lies in one of the ranges. -/
def contains (s : CodeRanges) (c : Char) : Bool :=
  s.containsCode c.toNat

end CodeRanges

end RowBindings.Unicode
