import RowBindings.Unicode.Blank
import RowBindings.Unicode.Category
import RowBindings.Unicode.GraphemeBreak
import RowBindings.Unicode.LetterCase
import RowBindings.Unicode.NamedProperty
import RowBindings.Unicode.Script

/-!
# Character sets

The sets of characters that a pattern can name: ranges, character properties, and what union,
intersection, difference and complement make of them.
-/

namespace RowBindings.Pattern

open RowBindings.Unicode

/-- A set of characters. -/
inductive CharSet
  | range (low high : Nat)
  | codes (codes : CodeRanges)
  | nothing
  | union (a b : CharSet)
  | inter (a b : CharSet)
  | diff (a b : CharSet)
  | symmDiff (a b : CharSet)
  | complement (a : CharSet)
  /-- The characters that differ only in case from one of the set. -/
  | anyCase (a : CharSet)

namespace CharSet

/-- The code points with the same case folding as `n`. -/
def caseVariants (n : Nat) : List Nat :=
  let folded := foldCode n
  folded :: foldRuns.filterMap fun run =>
    let m := Int.toNat (folded - run.shift)
    if run.map? m = some folded then some m else none

/-- Whether a code point is in the set. -/
def contains : CharSet → Nat → Bool
  | range low high, n => low ≤ n && n ≤ high
  | codes r, n => r.containsCode n
  | nothing, _ => false
  | union a b, n => a.contains n || b.contains n
  | inter a b, n => a.contains n && b.contains n
  | diff a b, n => a.contains n && !b.contains n
  | symmDiff a b, n => a.contains n != b.contains n
  | complement a, n => !a.contains n
  | anyCase a, n => (caseVariants n).any a.contains

/-- The set of one character. -/
def single (c : Char) : CharSet :=
  range c.toNat c.toNat

/-- The union of sets. -/
def unions (sets : List CharSet) : CharSet :=
  sets.foldr union nothing

/-- The set, or its complement. -/
def negateIf (negated : Bool) (s : CharSet) : CharSet :=
  if negated then complement s else s

/-- The number of ranges the set is written with. -/
def weight : CharSet → Nat
  | range _ _ => 1
  | codes r => 2 * r.ranges.size
  | nothing => 1
  | union a b | inter a b | diff a b | symmDiff a b => a.weight + b.weight
  | complement a => a.weight + 4
  | anyCase a => 2 * a.weight

/-! ## Named sets -/

/-- Letters, marks, numbers used as letters, digits, connectors and joiners. -/
def word : CharSet :=
  unions [codes Property.alphabetic, codes Category.nonspacingMark, codes Category.spacingMark,
    codes Category.enclosingMark, codes Category.decimalNumber,
    codes Category.connectorPunctuation, range 0x200C 0x200D]

/-- Decimal digits of every script. -/
def digit : CharSet :=
  codes Category.decimalNumber

/-- White space. -/
def space : CharSet :=
  unions [range 0x9 0xD, range 0x20 0x20, range 0x85 0x85, range 0xA0 0xA0, range 0x1680 0x1680,
    range 0x2000 0x200A, range 0x2028 0x2029, range 0x202F 0x202F, range 0x205F 0x205F,
    range 0x3000 0x3000]

private def az : CharSet := range 0x61 0x7A
private def upperAZ : CharSet := range 0x41 0x5A
private def decimal : CharSet := range 0x30 0x39

/-- Word characters of the basic Latin block. -/
def plainWord : CharSet := unions [az, upperAZ, decimal, single '_']

/-- Digits of the basic Latin block. -/
def plainDigit : CharSet := decimal

/-- White space of the basic Latin block. -/
def plainSpace : CharSet := union (range 0x9 0xD) (single ' ')

/-- The sets of the basic Latin block that brackets name between colons. -/
def bracketNamed? (name : String) : Option CharSet :=
  [ ("alnum", unions [az, upperAZ, decimal]), ("alpha", union az upperAZ), ("ascii", range 0 0x7F),
    ("blank", union (single '\t') (single ' ')), ("cntrl", union (range 0 0x1F) (range 0x7F 0x7F)),
    ("digit", decimal), ("graph", range 0x21 0x7E), ("lower", az), ("print", range 0x20 0x7E),
    ("punct", unions [range 0x21 0x2F, range 0x3A 0x40, range 0x5B 0x60, range 0x7B 0x7E]),
    ("space", plainSpace), ("upper", upperAZ), ("word", plainWord),
    ("xdigit", unions [decimal, range 0x41 0x46, range 0x61 0x66]) ].lookup name

/-- The general categories with their short and long names. -/
def categories : List (List String × CharSet) := [
  (["lu", "uppercaseletter"], codes Category.uppercaseLetter),
  (["ll", "lowercaseletter"], codes Category.lowercaseLetter),
  (["lt", "titlecaseletter"], codes Category.titlecaseLetter),
  (["lm", "modifierletter"], codes Category.modifierLetter),
  (["lo", "otherletter"], codes Category.otherLetter),
  (["mn", "nonspacingmark"], codes Category.nonspacingMark),
  (["mc", "spacingmark"], codes Category.spacingMark),
  (["me", "enclosingmark"], codes Category.enclosingMark),
  (["nd", "decimalnumber", "digit"], codes Category.decimalNumber),
  (["nl", "letternumber"], codes Category.letterNumber),
  (["no", "othernumber"], codes Category.otherNumber),
  (["pc", "connectorpunctuation"], codes Category.connectorPunctuation),
  (["pd", "dashpunctuation"], codes Category.dashPunctuation),
  (["ps", "openpunctuation"], codes Category.openPunctuation),
  (["pe", "closepunctuation"], codes Category.closePunctuation),
  (["pi", "initialpunctuation"], codes Category.initialPunctuation),
  (["pf", "finalpunctuation"], codes Category.finalPunctuation),
  (["po", "otherpunctuation"], codes Category.otherPunctuation),
  (["sm", "mathsymbol"], codes Category.mathSymbol),
  (["sc", "currencysymbol"], codes Category.currencySymbol),
  (["sk", "modifiersymbol"], codes Category.modifierSymbol),
  (["so", "othersymbol"], codes Category.otherSymbol),
  (["zs", "spaceseparator"], codes Category.spaceSeparator),
  (["zl", "lineseparator"], codes Category.lineSeparator),
  (["zp", "paragraphseparator"], codes Category.paragraphSeparator),
  (["cc", "control", "cntrl"], codes Category.control),
  (["cf", "format"], codes Category.format),
  (["co", "privateuse"], codes Category.privateUse)]

/-- The union of the categories whose short name starts with one of the texts. -/
private def categoryGroup (short : List String) : CharSet :=
  unions (categories.filterMap fun (names, set) =>
    if names.any fun n => short.any fun s => n.length = 2 && s.isPrefixOf n then some set
    else none)

/-- Every code point that has a category. -/
def assigned : CharSet :=
  unions (categories.map (·.2))

/-- The groups of general categories with their names. -/
def categoryGroups : List (List String × CharSet) := [
  (["l", "letter"], categoryGroup ["l"]),
  (["lc", "casedletter"], categoryGroup ["lu", "ll", "lt"]),
  (["m", "mark", "combiningmark"], categoryGroup ["m"]),
  (["n", "number"], categoryGroup ["n"]),
  (["p", "punctuation", "punct"], categoryGroup ["p"]),
  (["s", "symbol"], categoryGroup ["s"]),
  (["z", "separator"], categoryGroup ["z"]),
  (["c", "other"], complement (categoryGroup ["l", "m", "n", "p", "s", "z"])),
  (["cn", "unassigned"], complement assigned),
  (["any"], range 0 0x10FFFF),
  (["assigned"], assigned),
  (["ascii"], range 0 0x7F)]

/-- Letters that are no part of an identifier in compatibility form. -/
def unstableLetters : List CharSet := [
  range 0x37A 0x37A, range 0x309B 0x309C, range 0xFC5E 0xFC63, range 0xFDFA 0xFDFB,
  range 0xFE70 0xFE70, range 0xFE72 0xFE72, range 0xFE74 0xFE74, range 0xFE76 0xFE76,
  range 0xFE78 0xFE78, range 0xFE7A 0xFE7A, range 0xFE7C 0xFE7C, range 0xFE7E 0xFE7E]

/-- The digits and the letters up to `F`, their codes moved up. -/
def hexDigits (shift : Nat) : CharSet :=
  unions [range (0x30 + shift) (0x39 + shift), range (0x41 + shift) (0x46 + shift),
    range (0x61 + shift) (0x66 + shift)]

/-- The binary properties with their names. -/
def properties : List (List String × CharSet) := [
  (["alphabetic", "alpha"], codes Property.alphabetic),
  (["lowercase", "lower"], codes Property.lowercase),
  (["uppercase", "upper"], codes Property.uppercase),
  (["whitespace", "wspace", "space"], space),
  (["cased"], codes Property.cased),
  (["caseignorable", "ci"], codes Property.caseIgnorable),
  (["graphemeextend", "grext"], codes Property.graphemeExtend),
  (["xidstart", "xids"], codes Property.identifierStart),
  (["xidcontinue", "xidc"], codes Property.identifierContinue),
  (["idstart", "ids"], unions (codes Property.identifierStart :: range 0xE33 0xE33 ::
    range 0xEB3 0xEB3 :: range 0xFF9E 0xFF9F :: unstableLetters)),
  (["idcontinue", "idc"], unions (codes Property.identifierContinue :: unstableLetters)),
  (["asciihexdigit", "ahex"], hexDigits 0),
  (["hexdigit", "hex"], union (hexDigits 0) (hexDigits 0xFEE0)),
  (["joincontrol", "joinc"], range 0x200C 0x200D),
  (["patternwhitespace", "patws"], unions [range 0x9 0xD, range 0x20 0x20, range 0x85 0x85,
    range 0x200E 0x200F, range 0x2028 0x2029]),
  (["regionalindicator", "ri"], range 0x1F1E6 0x1F1FF),
  (["idsbinaryoperator", "idsb"], union (range 0x2FF0 0x2FF1) (range 0x2FF4 0x2FFB)),
  (["idstrinaryoperator", "idst"], range 0x2FF2 0x2FF3),
  (["extendedpictographic", "extpict"], codes GraphemeBreak.pictographic),
  (["bidic", "bidicontrol"], codes Property.bidiControl),
  (["dash"], codes Property.dash),
  (["dep", "deprecated"], codes Property.deprecated_),
  (["di", "defaultignorablecodepoint"], codes Property.defaultIgnorable),
  (["dia", "diacritic"], codes Property.diacritic),
  (["emoji"], codes Property.emoji),
  (["emod", "emojimodifier"], codes Property.emojiModifier),
  (["ebase", "emojimodifierbase"], codes Property.emojiModifierBase),
  (["ecomp", "emojicomponent"], codes Property.emojiComponent),
  (["epres", "emojipresentation"], codes Property.emojiPresentation),
  (["ext", "extender"], codes Property.extender),
  (["ideo", "ideographic"], codes Property.ideographic),
  (["loe", "logicalorderexception"], codes Property.logicalOrderException),
  (["math"], codes Property.math),
  (["nchar", "noncharactercodepoint"], codes Property.noncharacter),
  (["patsyn", "patternsyntax"], codes Property.patternSyntax),
  (["pcm", "prependedconcatenationmark"], codes Property.prependedMark),
  (["qmark", "quotationmark"], codes Property.quotationMark),
  (["radical"], codes Property.radical),
  (["sd", "softdotted"], codes Property.softDotted),
  (["sterm", "sentenceterminal"], codes Property.sentenceTerminal),
  (["term", "terminalpunctuation"], codes Property.terminalPunctuation),
  (["uideo", "unifiedideograph"], codes Property.unifiedIdeograph),
  (["vs", "variationselector"], codes Property.variationSelector)]

/-- A property name without its case, blanks, hyphens and underscores, and without `is` in front. -/
def looseName (name : List Char) : String :=
  let cs := (name.map Char.toLower).filter fun c => !(c == ' ' || c == '_' || c == '-')
  String.ofList (match cs with
    | 'i' :: 's' :: rest => if rest = ['c'] then cs else rest
    | _ => cs)

private def named? (table : List (List String × CharSet)) (name : String) : Option CharSet :=
  (table.find? fun entry => entry.1.contains name).map (·.2)

/-- The general category, or group of them, of a name. -/
def category? (name : String) : Option CharSet :=
  (named? categories name).orElse fun _ => named? categoryGroups name

/-- The script of a name. -/
def script? (name : String) : Option CharSet :=
  (scripts.find? fun s => s.names.any fun n => looseName n.toList == name).map
    fun s => codes s.codes

/-- The set that a property name stands for. -/
def property? (name : List Char) : Option CharSet :=
  let name := looseName name
  (named? properties name).orElse fun _ => (category? name).orElse fun _ => script? name

/-- The set of the characters for which a property has a value. -/
def propertyValue? (property value : List Char) : Option CharSet :=
  let value := looseName value
  match looseName property with
  | "gc" | "generalcategory" => category? value
  | "sc" | "script" | "scx" | "scriptextensions" => script? value
  | _ => none

end CharSet

end RowBindings.Pattern
