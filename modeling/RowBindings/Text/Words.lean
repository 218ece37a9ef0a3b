import RowBindings.Unicode.Grapheme
import RowBindings.Unicode.LetterCase

/-!
# Words of a name

A name falls apart into words at separators, at changes of letter case and between letters and
digits: `userID2` is `user`, `ID` and `2`. The words are put together again in lower case with
underscores, or capitalised without separators.
-/

namespace RowBindings.Text

open RowBindings.Unicode

/-- One user-perceived character. -/
abbrev Cluster := List Char

namespace Cluster

/-- Lower case, and different from its upper case. -/
def isLower (g : Cluster) : Bool :=
  upper g != lower g && g == lower g

/-- Upper case, and different from its lower case. -/
def isUpper (g : Cluster) : Bool :=
  upper g != lower g && g == upper g

/-- A digit of the basic Latin block. -/
def isDigit (g : Cluster) : Bool :=
  g.all Char.isDigit

/-- An underscore, a hyphen or a blank: it separates words and belongs to none. -/
def isSeparator (g : Cluster) : Bool :=
  g == ['_'] || g == ['-'] || g == [' ']

end Cluster

open Cluster

/-- Whether a word ends between `g` and what follows it: where a lower-case letter meets an
upper-case one, before the last capital of a run of capitals that a lower-case letter follows, and
where letters and digits meet. -/
def endsWord (g : Cluster) : List Cluster → Bool
  | [] => false
  | h :: rest =>
    (isLower g && isUpper h)
    || (isUpper g && isUpper h && match rest with | k :: _ => isLower k | [] => false)
    || ((isLower g || isUpper g) && isDigit h)
    || (isDigit g && (isLower h || isUpper h))

/-- The words of a text, the word being read held in `word`, last cluster first. Separators next to
each other enclose empty words. -/
def wordsFrom (word : List Cluster) : List Cluster → List (List Cluster)
  | [] => [word.reverse]
  | g :: rest =>
    if isSeparator g then word.reverse :: wordsFrom [] rest
    else if endsWord g rest then (g :: word).reverse :: wordsFrom [] rest
    else wordsFrom (g :: word) rest

/-- The words of a name. -/
def words (name : List Char) : List (List Cluster) :=
  wordsFrom [] (graphemes name)

/-- The texts one after the other, with `sep` between each two. -/
def joinWith (sep : List Char) : List (List Char) → List Char
  | [] => []
  | [t] => t
  | t :: rest => t ++ sep ++ joinWith sep rest

/-- A word with its first cluster in upper case and the rest in lower case. -/
def capitalise : List Cluster → List Char
  | [] => []
  | g :: rest => upper g ++ lower rest.flatten

/-- The words in lower case, joined by underscores. -/
def toSnake (name : List Char) : List Char :=
  joinWith ['_'] ((words name).map fun w => lower w.flatten)

/-- The words capitalised and put together. -/
def toPascal (name : List Char) : List Char :=
  ((words name).map capitalise).flatten

end RowBindings.Text
