/-!
# The shortest decimal that reads back

A finite floating-point number is a whole number times a power of two. Among the decimals that
round to it, the shortest is found by trying grids of one, two and more digits: the first grid that
has a point in the interval of numbers rounding to it wins, and of two points the nearer one.
-/

namespace RowBindings.Number

/-- A finite floating-point number without its sign: `mantissa · 2 ^ exponent`. -/
structure Binary where
  mantissa : Nat
  exponent : Int
  /-- The interval below is half as wide, as at a power of two. -/
  narrowBelow : Bool

/-- The magnitude of a finite number. -/
def Binary.ofFloat (x : Float) : Binary :=
  let bits := x.toBits.toNat
  let biased : Nat := bits / Nat.pow 2 52 % Nat.pow 2 11
  let fraction : Nat := bits % Nat.pow 2 52
  if biased = 0 then { mantissa := fraction, exponent := -1074, narrowBelow := false }
  else { mantissa := Nat.pow 2 52 + fraction, exponent := (biased : Int) - 1075,
         narrowBelow := fraction = 0 && biased > 1 }

/-- A decimal: `digits · 10 ^ exponent`. -/
structure Decimal where
  digits : Nat
  exponent : Int
  deriving DecidableEq, Repr

/-- A positive fraction. -/
structure Ratio where
  num : Nat
  den : Nat

/-- The fraction `n · base ^ e`. -/
def Ratio.scaled (n base : Nat) (e : Int) : Ratio :=
  if e ≥ 0 then ⟨n * base.pow e.toNat, 1⟩ else ⟨n, base.pow (-e).toNat⟩

/-- The least `k` with `n < 10 ^ k · d`, counted up from `k`. -/
def digitsAbove (n d : Nat) : Nat → Nat → Nat
  | 0, k => k
  | fuel + 1, k => if n < Nat.pow 10 k * d then k else digitsAbove n d fuel (k + 1)

/-- The least `k` with `d ≤ n · 10 ^ k`, counted up from `k`. -/
def zerosBelow (n d : Nat) : Nat → Nat → Nat
  | 0, k => k
  | fuel + 1, k => if d ≤ n * Nat.pow 10 k then k else zerosBelow n d fuel (k + 1)

/-- The position of the first digit: the value lies below `10 ^ k` and not below `10 ^ (k - 1)`. -/
def Ratio.magnitude (r : Ratio) : Int :=
  if r.num ≥ r.den then digitsAbove r.num r.den 400 0
  else 1 - (zerosBelow r.num r.den 400 0 : Int)

/-- The nearer point of the grid of decimals with last digit at `10 ^ u`, if it or its neighbour
rounds to the number. -/
def Binary.onGrid? (b : Binary) (u : Int) : Option Decimal :=
  -- everything in units of a quarter of the last binary digit
  let unit := Ratio.scaled 1 2 (b.exponent - 2)
  let grid := Ratio.scaled 1 10 u
  let value := 4 * b.mantissa
  let low := if b.narrowBelow then value - 1 else value - 2
  let high := value + 2
  let closed := b.mantissa % 2 = 0
  -- `c` grid steps against `q` quarter units
  let step (c : Nat) : Nat := c * grid.num * unit.den
  let quarter (q : Nat) : Nat := q * unit.num * grid.den
  let floor := quarter value / step 1
  let fits (c : Nat) : Bool :=
    c > 0 &&
      if closed then quarter low ≤ step c && step c ≤ quarter high
      else quarter low < step c && step c < quarter high
  let down := fits floor
  let up := fits (floor + 1)
  if down && up then
    if quarter value - step floor ≤ step (floor + 1) - quarter value then some ⟨floor, u⟩
    else some ⟨floor + 1, u⟩
  else if down then some ⟨floor, u⟩
  else if up then some ⟨floor + 1, u⟩
  else none

/-- The shortest decimal that rounds to a positive finite number. -/
def shortest (x : Float) : Decimal :=
  let b := Binary.ofFloat x
  let top := (Ratio.scaled b.mantissa 2 b.exponent).magnitude
  ((List.range 18).findSome? fun (n : Nat) => b.onGrid? (top - 1 - n)).getD ⟨0, 0⟩

/-! ## Text -/

/-- Digits with a point before the last `-exponent` of them, or zeros after them. -/
def Decimal.positional (d : Decimal) : List Char :=
  let cs := Nat.toDigits 10 d.digits
  if d.exponent ≥ 0 then cs ++ List.replicate d.exponent.toNat '0' ++ ['.', '0']
  else
    let places := (-d.exponent).toNat
    let cs := List.replicate (places + 1 - cs.length) '0' ++ cs
    cs.take (cs.length - places) ++ '.' :: cs.drop (cs.length - places)

/-- Digits with a point after the first of them, and the power of ten. -/
def Decimal.scientific (d : Decimal) : List Char :=
  let cs := Nat.toDigits 10 d.digits
  let power : Int := d.exponent + cs.length - 1
  let front := match cs with
    | [] => []
    | [c] => [c]
    | c :: rest => c :: '.' :: rest
  front ++ 'e' :: (toString power).toList

/-- The digits without zeros at the end. -/
def Decimal.trimmed (d : Decimal) : Decimal :=
  let zeros := ((Nat.toDigits 10 d.digits).reverse.takeWhile (· == '0')).length
  if d.digits = 0 then ⟨0, 0⟩ else ⟨d.digits / Nat.pow 10 zeros, d.exponent + zeros⟩

/-- A number as text; `write` writes the magnitude of a number that is finite and not zero. -/
def floatText (write : Float → List Char) (x : Float) : List Char :=
  let sign := if x.toBits.toNat ≥ Nat.pow 2 63 then ['-'] else []
  if x.isNaN then "NaN".toList
  else if x.isInf then sign ++ "inf".toList
  else if x == 0.0 then sign ++ "0.0".toList
  else sign ++ write x.abs

/-- A number as text, with a point and without a power of ten. -/
def plainText (x : Float) : List Char :=
  floatText (fun x => (shortest x).trimmed.positional) x

/-- A number as text; very large and very small ones with a power of ten. -/
def scaledText (x : Float) : List Char :=
  floatText (fun x =>
    let d := (shortest x).trimmed
    if 1e-5 ≤ x && x < 1e16 then d.positional else d.scientific) x

end RowBindings.Number
