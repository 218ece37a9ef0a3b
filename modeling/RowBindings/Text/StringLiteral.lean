import RowBindings.Unicode.Category
import RowBindings.Unicode.Property

/-!
# String literals

The literal that stands for a text in generated source: the text between double quotes, with
quotes, backslashes and characters that cannot be seen written as escapes.
-/

namespace RowBindings.Text

open RowBindings.Unicode

/-- The categories of characters that can be seen. -/
def visibleCategories : List CodeRanges := [
  Category.uppercaseLetter, Category.lowercaseLetter, Category.titlecaseLetter,
  Category.modifierLetter, Category.otherLetter, Category.nonspacingMark, Category.spacingMark,
  Category.enclosingMark, Category.decimalNumber, Category.letterNumber, Category.otherNumber,
  Category.connectorPunctuation, Category.dashPunctuation, Category.openPunctuation,
  Category.closePunctuation, Category.initialPunctuation, Category.finalPunctuation,
  Category.otherPunctuation, Category.mathSymbol, Category.currencySymbol,
  Category.modifierSymbol, Category.otherSymbol]

/-- Letters that fill the place of one and show nothing. -/
def isFiller (c : Char) : Bool :=
  c.toNat == 0x115F || c.toNat == 0x1160 || c.toNat == 0x3164 || c.toNat == 0xFFA0

/-- Whether a character is written as itself: it can be seen, and it does not attach to the
character before it. -/
def isPrintable (c : Char) : Bool :=
  if c.toNat < 0x80 then 0x20 ≤ c.toNat && c.toNat < 0x7F
  else visibleCategories.any (·.contains c) && !Property.graphemeExtend.contains c && !isFiller c

/-- The digit of value `d`, below 16. -/
def hexDigit (d : Nat) : Char :=
  if d < 10 then Char.ofNat ('0'.toNat + d) else Char.ofNat ('a'.toNat + (d - 10))

/-- The hexadecimal digits of `n`, without leading zeros. -/
def hexDigits (n : Nat) : List Char :=
  if _h : n < 16 then [hexDigit n]
  else hexDigits (n / 16) ++ [hexDigit (n % 16)]
termination_by n

/-- How a character is written inside a literal. -/
def escapeChar (c : Char) : List Char :=
  if c = '\x00' then ['\\', '0']
  else if c = '\t' then ['\\', 't']
  else if c = '\r' then ['\\', 'r']
  else if c = '\n' then ['\\', 'n']
  else if c = '\\' then ['\\', '\\']
  else if c = '"' then ['\\', '"']
  else if isPrintable c then [c]
  else ['\\', 'u', '\x7b'] ++ hexDigits c.toNat ++ ['\x7d']

/-- The literal for a text. -/
def literal (text : List Char) : List Char :=
  '"' :: text.flatMap escapeChar ++ ['"']

/-- The literal for a string. -/
def stringLiteral (text : String) : String :=
  String.ofList (literal text.toList)

end RowBindings.Text
