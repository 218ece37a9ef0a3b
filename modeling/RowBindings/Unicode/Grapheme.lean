import RowBindings.Unicode.GraphemeBreak

/-!
# User-perceived characters

Segmentation of text into grapheme clusters: a letter and its marks, a Hangul syllable, a flag or a
joined pictograph is one cluster. No text is lost: the clusters concatenate to it.
-/

namespace RowBindings.Unicode

/-- What a character means to segmentation. -/
inductive BreakClass
  | carriageReturn
  | lineFeed
  | control
  | extend
  | joiner
  | prepend
  | spacingMark
  | regional
  | leading
  | vowel
  | trailing
  | leadingVowel
  | leadingVowelTrailing
  | pictographic
  | other
  deriving DecidableEq, Repr

open BreakClass in
/-- The class of a character. -/
def BreakClass.ofChar (c : Char) : BreakClass :=
  let n := c.toNat
  if n = 0xD then carriageReturn
  else if n = 0xA then lineFeed
  else if 0x20 ≤ n ∧ n < 0x7F then other
  else if n = 0x200D then joiner
  else if 0x1F1E6 ≤ n ∧ n ≤ 0x1F1FF then regional
  else if 0xAC00 ≤ n ∧ n ≤ 0xD7A3 then
    if (n - 0xAC00) % 28 = 0 then leadingVowel else leadingVowelTrailing
  else if GraphemeBreak.control.contains c then control
  else if GraphemeBreak.extend.contains c then extend
  else if GraphemeBreak.prepend.contains c then prepend
  else if GraphemeBreak.spacingMark.contains c then spacingMark
  else if GraphemeBreak.hangulLeading.contains c then leading
  else if GraphemeBreak.hangulVowel.contains c then vowel
  else if GraphemeBreak.hangulTrailing.contains c then trailing
  else if GraphemeBreak.pictographic.contains c then pictographic
  else other

/-- What is known of the text just before a position. -/
structure BreakContext where
  last : BreakClass
  /-- An odd number of regional indicators ends here. -/
  oddRegional : Bool
  /-- A pictograph and any number of extending marks end here. -/
  pictograph : Bool
  /-- A pictograph, any number of extending marks and a joiner end here. -/
  joinedPictograph : Bool

/-- The context after one more character of class `k`. -/
def BreakContext.next (ctx : BreakContext) (k : BreakClass) : BreakContext :=
  { last := k
    oddRegional := k == .regional && !ctx.oddRegional
    pictograph := k == .pictographic || (k == .extend && ctx.pictograph)
    joinedPictograph := k == .joiner && ctx.pictograph }

/-- The context after a first character of class `k`. -/
def BreakContext.start (k : BreakClass) : BreakContext :=
  { last := k, oddRegional := k == .regional, pictograph := k == .pictographic,
    joinedPictograph := false }

/-- Whether a cluster ends before a character of class `k`. -/
def BreakContext.breaksBefore (ctx : BreakContext) (k : BreakClass) : Bool :=
  match ctx.last, k with
  | .carriageReturn, .lineFeed => false
  | .carriageReturn, _ | .lineFeed, _ | .control, _ => true
  | _, .carriageReturn | _, .lineFeed | _, .control => true
  | .leading, .leading | .leading, .vowel | .leading, .leadingVowel
  | .leading, .leadingVowelTrailing => false
  | .leadingVowel, .vowel | .leadingVowel, .trailing | .vowel, .vowel | .vowel, .trailing => false
  | .leadingVowelTrailing, .trailing | .trailing, .trailing => false
  | _, .extend | _, .joiner | _, .spacingMark => false
  | .prepend, _ => false
  | .regional, .regional => !ctx.oddRegional
  | .joiner, .pictographic => !ctx.joinedPictograph
  | _, _ => true

/-- Segmentation inside a cluster whose characters so far are `cluster`, last first. -/
def graphemesFrom (ctx : BreakContext) (cluster : List Char) : List Char → List (List Char)
  | [] => [cluster.reverse]
  | c :: rest =>
    let k := BreakClass.ofChar c
    if ctx.breaksBefore k then
      cluster.reverse :: graphemesFrom (.start k) [c] rest
    else
      graphemesFrom (ctx.next k) (c :: cluster) rest

/-- The grapheme clusters of a text. -/
def graphemes : List Char → List (List Char)
  | [] => []
  | c :: rest => graphemesFrom (.start (BreakClass.ofChar c)) [c] rest

end RowBindings.Unicode
