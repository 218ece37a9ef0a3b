import RowBindings.Unicode.CaseMapping
import RowBindings.Unicode.Property

/-!
# Letter case

Upper, lower and folded case of characters and of text. The case of a character may be several
characters; the lower case of a capital sigma depends on the letters around it.
-/

namespace RowBindings.Unicode

/-- The code point a run maps `n` to, if the run covers it. -/
def CaseRun.map? (run : CaseRun) (n : Nat) : Option Nat :=
  if run.first ≤ n ∧ n ≤ run.last ∧ (n - run.first) % run.step = 0 then
    some (Int.toNat (n + run.shift))
  else none

/-- The image of a character under a mapping given by runs and sequences. -/
def mapCase (runs : List CaseRun) (sequences : List (Nat × List Nat)) (c : Char) : List Char :=
  match sequences.lookup c.toNat with
  | some codes => codes.map Char.ofNat
  | none =>
    match runs.findSome? (·.map? c.toNat) with
    | some n => [Char.ofNat n]
    | none => [c]

/-- The upper case of a character. -/
def upperChar (c : Char) : List Char :=
  if c.toNat < 0x80 then [c.toUpper] else mapCase upperRuns upperSequences c

/-- The lower case of a character on its own. -/
def lowerChar (c : Char) : List Char :=
  if c.toNat < 0x80 then [c.toLower] else mapCase lowerRuns lowerSequences c

/-- The simple case folding of a character, as a code point. -/
def foldCode (n : Nat) : Nat :=
  (foldRuns.findSome? (·.map? n)).getD n

/-- The upper case of a text. -/
def upper (cs : List Char) : List Char :=
  cs.flatMap upperChar

/-- Whether, past characters that case ignores, a cased letter comes first. -/
def casedFirst (cs : List Char) : Bool :=
  match cs.dropWhile Property.caseIgnorable.contains with
  | c :: _ => Property.cased.contains c
  | [] => false

/-- Lower case of a text that follows the characters `before`, nearest first. A capital sigma that
ends a word, with a cased letter before it and none after it, has a form of its own. -/
def lowerAfter (before : List Char) : List Char → List Char
  | [] => []
  | c :: rest =>
    if c = 'Σ' then
      (if casedFirst before && !casedFirst rest then 'ς' else 'σ') :: lowerAfter (c :: before) rest
    else
      lowerChar c ++ lowerAfter (c :: before) rest

/-- The lower case of a text. -/
def lower (cs : List Char) : List Char :=
  lowerAfter [] cs

end RowBindings.Unicode
