import RowBindings.Unicode.CodeRanges

/-!
# Scalars

Which words of a document are scalars that are no text: truth values, numbers, dates and times.
-/

namespace RowBindings.Document

open Unicode

/-- One or more digits with single underscores between them. -/
def isDigits (isDigit : Char → Bool) : List Char → Bool
  | [] => false
  | [c] => isDigit c
  | c :: '_' :: rest => isDigit c && isDigits isDigit rest
  | c :: rest => isDigit c && isDigits isDigit rest

/-- A decimal number without sign: no zero in front of other digits. -/
def isDecimal (cs : List Char) : Bool :=
  isDigits Char.isDigit cs && (cs.head? != some '0' || cs.length == 1)

/-- The value of digits in a base, underscores skipped. -/
def digitsValue (base : Nat) (cs : List Char) : Nat :=
  cs.foldl (fun n c => match CodeRanges.hexDigit? c with
    | some d => n * base + d
    | none => n) 0

/-- Drops a sign in front. -/
def dropSign : List Char → List Char
  | '+' :: rest => rest
  | '-' :: rest => rest
  | cs => cs

/-- An integer that fits into 128 bits. -/
def isInteger (cs : List Char) : Bool :=
  match cs with
  | '0' :: 'x' :: rest =>
    isDigits (fun c => (CodeRanges.hexDigit? c).isSome) rest && digitsValue 16 rest < Nat.pow 2 128
  | '0' :: 'o' :: rest =>
    isDigits (fun c => '0' ≤ c && c ≤ '7') rest && digitsValue 8 rest < Nat.pow 2 128
  | '0' :: 'b' :: rest =>
    isDigits (fun c => c == '0' || c == '1') rest && digitsValue 2 rest < Nat.pow 2 128
  | cs =>
    let greatest := if cs.head? == some '-' then Nat.pow 2 127 else Nat.pow 2 128 - 1
    isDecimal (dropSign cs) && digitsValue 10 (dropSign cs) ≤ greatest

/-- Whether `m · 10 ^ e` is too large for a floating-point number, `m` having `digits` digits. -/
def overflows (m digits : Nat) (e : Int) : Bool :=
  if m == 0 then false
  else if (digits : Int) + e > 310 then true
  else if (digits : Int) + e < 308 then false
  else
    let bound := Nat.pow 2 1024 - Nat.pow 2 970
    if e ≥ 0 then m * Nat.pow 10 e.toNat ≥ bound else m ≥ bound * Nat.pow 10 (-e).toNat

/-- A floating-point number: a decimal number with a fraction, an exponent or both. -/
def isFloat (cs : List Char) : Bool :=
  let cs := dropSign cs
  let isMark (c : Char) : Bool := c == 'e' || c == 'E'
  let mantissa := cs.takeWhile fun c => !isMark c
  let whole := mantissa.takeWhile (· != '.')
  let fraction := mantissa.drop (whole.length + 1)
  let exponent := cs.drop (mantissa.length + 1)
  cs == "inf".toList || cs == "nan".toList
    || (isDecimal whole
      && (whole.length < mantissa.length || mantissa.length < cs.length)
      && (whole.length == mantissa.length || isDigits Char.isDigit fraction)
      && (mantissa.length == cs.length || isDigits Char.isDigit (dropSign exponent))
      && !(
        let significant := (whole ++ fraction).filter Char.isDigit
        let m := digitsValue 10 significant
        let shift : Int := digitsValue 10 (dropSign exponent)
        let e : Int := (if exponent.head? == some '-' then -shift else shift)
          - (fraction.filter Char.isDigit).length
        overflows m (significant.dropWhile (· == '0')).length e))

/-! ## Dates and times -/

/-- A number of exactly `count` digits, and what follows it. -/
def fixedNumber? (count : Nat) (cs : List Char) : Option (Nat × List Char) :=
  let digits := cs.take count
  if digits.length == count && digits.all Char.isDigit then
    some (digitsValue 10 digits, cs.drop count)
  else none

/-- The number of days of a month. -/
def daysOfMonth (year month : Nat) : Nat :=
  if month == 2 then
    if year % 4 == 0 && (year % 100 != 0 || year % 400 == 0) then 29 else 28
  else if [4, 6, 9, 11].contains month then 30 else 31

/-- Skips a date. -/
def date? (cs : List Char) : Option (List Char) := do
  let (year, cs) ← fixedNumber? 4 cs
  let '-' :: cs := cs | none
  let (month, cs) ← fixedNumber? 2 cs
  let '-' :: cs := cs | none
  let (day, cs) ← fixedNumber? 2 cs
  if 1 ≤ month && month ≤ 12 && 1 ≤ day && day ≤ daysOfMonth year month then some cs else none

/-- Skips a time of day; seconds may be left out. -/
def time? (cs : List Char) : Option (List Char) := do
  let (hour, cs) ← fixedNumber? 2 cs
  let ':' :: cs := cs | none
  let (minute, cs) ← fixedNumber? 2 cs
  if hour > 23 || minute > 59 then none
  match cs with
  | ':' :: cs => do
    let (second, cs) ← fixedNumber? 2 cs
    if second > 60 then none
    match cs with
    | '.' :: cs =>
      if (cs.head?.map Char.isDigit) == some true then some (cs.dropWhile Char.isDigit) else none
    | cs => some cs
  | cs => some cs

/-- Skips the offset of a time zone, if there is one. -/
def offset? (cs : List Char) : Option (List Char) :=
  match cs with
  | 'Z' :: cs | 'z' :: cs => some cs
  | '+' :: cs | '-' :: cs => do
    let (hour, cs) ← fixedNumber? 2 cs
    let ':' :: cs := cs | none
    let (minute, cs) ← fixedNumber? 2 cs
    if hour ≤ 23 && minute ≤ 59 then some cs else none
  | cs => some cs

/-- A date, a time, or both with a letter or blank between them and perhaps a time zone. -/
def isDateTime (cs : List Char) : Bool :=
  match date? cs with
  | some [] => true
  | some (c :: rest) =>
    (c == 'T' || c == 't' || c == ' ') && (time? rest).bind offset? == some []
  | none => time? cs == some []

/-- Whether a word is a scalar. -/
def isScalar (cs : List Char) : Bool :=
  cs == "true".toList || cs == "false".toList || isInteger cs || isFloat cs || isDateTime cs

end RowBindings.Document
