/-!
# White space

The white-space property, and trimming and splitting at white space.
-/

namespace RowBindings.Unicode

/-- Characters with the white-space property. -/
def isBlank (c : Char) : Bool :=
  let n := c.toNat
  (0x9 ≤ n && n ≤ 0xD) || n == 0x20 || n == 0x85 || n == 0xA0 || n == 0x1680
    || (0x2000 ≤ n && n ≤ 0x200A) || n == 0x2028 || n == 0x2029 || n == 0x202F || n == 0x205F
    || n == 0x3000

/-- White space of the basic Latin block: tab, line feed, form feed, carriage return and blank. -/
def isPlainBlank (c : Char) : Bool :=
  c == ' ' || c == '\t' || c == '\n' || c == '\r' || c == '\x0c'

/-- Drops the longest suffix all of whose elements satisfy `p`. -/
def dropWhileEnd {α : Type} (p : α → Bool) (cs : List α) : List α :=
  (cs.reverse.dropWhile p).reverse

/-- Drops white space in front. -/
def trimStart (cs : List Char) : List Char :=
  cs.dropWhile isBlank

/-- Drops white space at the end. -/
def trimEnd (cs : List Char) : List Char :=
  dropWhileEnd isBlank cs

/-- Drops white space at both ends. -/
def trim (cs : List Char) : List Char :=
  trimEnd (trimStart cs)

/-- The runs of characters that are not white space; `word` is the run being read, reversed. -/
def blankSeparatedAux (word : List Char) : List Char → List (List Char)
  | [] => if word.isEmpty then [] else [word.reverse]
  | c :: rest =>
    if isBlank c then
      if word.isEmpty then blankSeparatedAux [] rest
      else word.reverse :: blankSeparatedAux [] rest
    else blankSeparatedAux (c :: word) rest

/-- The maximal runs of characters that are not white space. -/
def blankSeparated (cs : List Char) : List (List Char) :=
  blankSeparatedAux [] cs

end RowBindings.Unicode
