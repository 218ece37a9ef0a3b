import RowBindings.Template.Value
import RowBindings.Unicode.Blank

/-!
# Operations on values

Truth, order, look-up and arithmetic.
-/

namespace RowBindings.Template

namespace Value

/-! ## Truth and size -/

/-- The number of elements, entries or characters. -/
def length? : Value → Option Nat
  | text s => some s.length
  | list items => some items.length
  | map entries => some entries.length
  | keywords entries => some entries.length
  | definitions entries _ => some entries.length
  | record r => some (recordEntries r).length
  | _ => Option.none

/-- Whether a value counts as true: it is neither empty nor zero nor nothing. -/
def isTrue : Value → Bool
  | undefined _ => false
  | none => false
  | bool b => b
  | int n => n != 0
  | float x => x != 0.0
  | v => match v.length? with
    | some n => n != 0
    | Option.none => true

/-- Whether a value counts as true. To ask this of a missing value is a fault. -/
def holds : Value → Except Fault Bool
  | undefined false => .error .undefinedValue
  | v => .ok v.isTrue

/-- The elements of a list, the keys of a map, the characters of a text. -/
def items : Value → Except Fault (List Value)
  | undefined _ => .ok []
  | none => .ok []
  | text s => .ok (s.toList.map fun c => text (String.ofList [c]))
  | list items => .ok items
  | map entries => .ok (entries.map (·.1))
  | keywords entries => .ok (entries.map fun e => text e.1)
  | definitions entries _ => .ok (entries.map fun e => text e.1)
  | record r => .ok ((recordEntries r).map fun e => text e.1)
  | _ => .error .invalidOperation

/-- The elements of a value that is not missing. -/
def definedItems : Value → Except Fault (List Value)
  | undefined false => .error .undefinedValue
  | v => v.items

/-! ## Numbers -/

/-- The value as a whole number, if it is one. -/
def toInt? : Value → Option Int
  | bool b => some (if b then 1 else 0)
  | int n => some n
  | float x =>
    if x.isFinite && x.floor == x && x.abs < 1e18 then
      let n : Int := x.abs.toUInt64.toNat
      some (if x < 0.0 then -n else n)
    else Option.none
  | _ => Option.none

/-- The value as a floating-point number, if it is a number. -/
def toFloat? : Value → Option Float
  | bool b => some (if b then 1.0 else 0.0)
  | int n => some (Float.ofInt n)
  | float x => some x
  | _ => Option.none

/-- Two numbers of the same kind. -/
inductive NumberPair
  | ints (a b : Int)
  | floats (a b : Float)

/-- Two numbers; if one of them has a fraction, both become floating-point numbers. -/
def numbers? : Value → Value → Option NumberPair
  | float a, v => v.toFloat?.map (.floats a ·)
  | v, float b => v.toFloat?.map (.floats · b)
  | a, b => match a.toInt?, b.toInt? with
    | some a, some b => some (.ints a b)
    | _, _ => Option.none

/-! ## Order -/

/-- Values of different kinds are ordered by their kinds. -/
def kindRank : Value → Nat
  | undefined _ => 0
  | none => 1
  | bool _ => 2
  | int _ | float _ => 3
  | text _ => 4
  | list _ => 6
  | map _ | keywords _ | record _ | definitions .. | loop .. => 7
  | macroOf _ | function _ => 9

/-- The order of two floating-point numbers: the negative zero comes before the other one, and what
is no number before all others. -/
def floatOrder (x y : Float) : Ordering :=
  if x < y then .lt
  else if y < x then .gt
  else if x.isNaN || y.isNaN then compare y.isNaN x.isNaN
  else if x == 0.0 then compare (decide (1.0 / x > 0.0)) (decide (1.0 / y > 0.0))
  else .eq

/-- The order of two values without parts. Equal ones of different kinds go by their kinds. -/
def simpleOrder (a b : Value) : Ordering :=
  match a, b with
  | text s, text t => compare s t
  | a, b =>
    let bySize := match numbers? a b with
      | some (.ints x y) => compare x y
      | some (.floats x y) => floatOrder x y
      | Option.none => .eq
    bySize.then (compare a.kindRank b.kindRank)

mutual

/-- The order of two values: numbers by size, texts by their characters, lists and maps by their
parts. -/
def order : Value → Value → Ordering
  | list xs, list ys => orderItems xs ys
  | map xs, map ys => orderPairs xs ys
  | a, b => simpleOrder a b

/-- The order of two lists of elements. -/
def orderItems : List Value → List Value → Ordering
  | [], [] => .eq
  | [], _ :: _ => .lt
  | _ :: _, [] => .gt
  | x :: xs, y :: ys => (order x y).then (orderItems xs ys)

/-- The order of two lists of entries. -/
def orderPairs : List (Value × Value) → List (Value × Value) → Ordering
  | [], [] => .eq
  | [], _ :: _ => .lt
  | _ :: _, [] => .gt
  | (k, v) :: xs, (l, w) :: ys => ((order k l).then (order v w)).then (orderPairs xs ys)

end

mutual

/-- Whether two values are equal. Maps are equal if they have equal values for the same keys. -/
def equal : Value → Value → Bool
  | list xs, list ys => equalItems xs ys
  | map xs, map ys => xs.length == ys.length && subsumed xs ys
  | record r, record s => r == s
  | loop .., loop .. => true
  | function f, function g => f == g
  | text s, text t => s == t
  | undefined _, undefined _ => true
  | none, none => true
  | a, b => match numbers? a b with
    | some (.ints x y) => x == y
    | some (.floats x y) => x == y
    | Option.none => false

/-- Whether two lists have equal elements. -/
def equalItems : List Value → List Value → Bool
  | [], [] => true
  | x :: xs, y :: ys => equal x y && equalItems xs ys
  | _, _ => false

/-- Whether each entry is among the entries of another map. -/
def subsumed : List (Value × Value) → List (Value × Value) → Bool
  | [], _ => true
  | (k, v) :: xs, ys => ys.any (fun (l, w) => equal k l && equal v w) && subsumed xs ys

end

/-! ## Look-up -/

/-- The state of a loop under its names. -/
def loopEntries (index length : Nat) (previous next : Value) : List (String × Value) := [
  ("index0", int index), ("index", int (index + 1)), ("length", int length),
  ("revindex", int (length - index : Nat)), ("revindex0", int (length - index - 1 : Nat)),
  ("first", bool (index == 0)), ("last", bool (length == 0 || index == length - 1)),
  ("depth", int 1), ("depth0", int 0), ("previtem", previous), ("nextitem", next)]

/-- What a value has under a name. -/
def field? (v : Value) (name : String) : Option Value :=
  match v with
  | map entries => (entries.find? fun e => equal e.1 (text name)).map (·.2)
  | keywords entries => entries.lookup name
  | record r => (recordEntries r).lookup name
  | definitions entries _ => entries.lookup name
  | loop _ index length previous next => (loopEntries index length previous next).lookup name
  | macroOf m =>
    if name == "name" then some (text m.name)
    else if name == "arguments" then some (texts m.params)
    else Option.none
  | _ => Option.none

/-- The position that a key stands for; negative keys count from the end. -/
def position? (key : Value) (length : Nat) : Option Nat :=
  match key.toInt? with
  | some n => if n < 0 then (if (-n).toNat ≤ length then some (length - (-n).toNat) else Option.none)
    else some n.toNat
  | Option.none => Option.none

/-- What a value has under a key. -/
def item? (v key : Value) : Option Value :=
  match v with
  | list items => (position? key items.length).bind (items[·]?)
  | text s =>
    (position? key s.length).bind fun i => (s.toList[i]?).map fun c => text (String.ofList [c])
  | map entries => (entries.find? fun e => equal e.1 key).map (·.2)
  | v => match key with
    | text name => v.field? name
    | _ => Option.none

/-- A look-up that found nothing: a missing value, unless the value looked into is missing itself. -/
def orMissing (v : Value) (found : Option Value) : Except Fault Value :=
  match found with
  | some w => .ok w
  | Option.none => if v.isUndefined then .error .undefinedValue else .ok missing

/-- The value of an attribute. -/
def field (v : Value) (name : String) : Except Fault Value :=
  v.orMissing (v.field? name)

/-- The value under a key. -/
def item (v key : Value) : Except Fault Value :=
  v.orMissing (v.item? key)

/-- The parts of a text between dots. -/
def dotted (word : List Char) : List Char → List (List Char)
  | [] => [word.reverse]
  | c :: rest => if c == '.' then word.reverse :: dotted [] rest else dotted (c :: word) rest

/-- The value at the end of a path of attributes and positions with dots between them. -/
def atPath (v : Value) (path : String) : Except Fault Value :=
  (dotted [] path.toList).foldlM (fun v part =>
    if !part.isEmpty && part.all Char.isDigit then
      v.item (int (part.foldl (fun n c => n * 10 + (c.toNat - '0'.toNat)) 0 : Nat))
    else v.field (String.ofList part)) v

/-- Whether a text stands in another one. -/
def isInfix (part : List Char) : List Char → Bool
  | [] => part.isEmpty
  | c :: rest => part.isPrefixOf (c :: rest) || isInfix part rest

/-- Whether a value is in another one: an element of a list, a key of a map, a part of a text. -/
def member (element container : Value) : Except Fault Value :=
  match container with
  | undefined _ => .ok (bool false)
  | text s => .ok (bool (isInfix element.toText.toList s.toList))
  | list items => .ok (bool (items.any (·.equal element)))
  | macroOf _ | function _ => .ok (bool false)
  | none | bool _ | int _ | float _ => .error .invalidOperation
  | v => .ok (bool (v.item? element).isSome)

/-! ## Arithmetic -/

/-- A whole number that fits into 128 bits. -/
def checked (n : Int) : Except Fault Value :=
  if -(Nat.pow 2 127 : Int) ≤ n ∧ n < Nat.pow 2 127 then .ok (int n) else .error .invalidOperation

/-- An operation on two numbers. -/
def arithmetic (onInts : Int → Int → Except Fault Value) (onFloats : Float → Float → Float)
    (a b : Value) : Except Fault Value :=
  match numbers? a b with
  | some (.ints x y) => onInts x y
  | some (.floats x y) => .ok (float (onFloats x y))
  | Option.none => .error .invalidOperation

/-- Sums, and texts or lists one after the other. -/
def add : Value → Value → Except Fault Value
  | text s, text t => .ok (text (s ++ t))
  | list xs, list ys => .ok (list (xs ++ ys))
  | a, b => arithmetic (fun x y => checked (x + y)) (· + ·) a b

/-- A text or a list several times over. -/
def repeated (v count : Value) : Except Fault Value :=
  match v, count.toInt? with
  | text s, some n =>
    if n < 0 then .error .invalidOperation
    else .ok (text (String.ofList (List.replicate n.toNat s.toList).flatten))
  | list items, some n =>
    if n < 0 then .error .invalidOperation else .ok (list (List.replicate n.toNat items).flatten)
  | _, _ => .error .invalidOperation

/-- Products, and texts or lists several times over. -/
def multiply : Value → Value → Except Fault Value
  | text s, b => repeated (text s) b
  | list xs, b => repeated (list xs) b
  | a, text s => repeated (text s) a
  | a, list xs => repeated (list xs) a
  | a, b => arithmetic (fun x y => checked (x * y)) (· * ·) a b

/-- The quotient as a floating-point number. -/
def divide (a b : Value) : Except Fault Value :=
  match a.toFloat?, b.toFloat? with
  | some x, some y => .ok (float (x / y))
  | _, _ => .error .invalidOperation

/-- A floating-point number without its fraction. -/
def truncate (x : Float) : Float :=
  if x < 0.0 then x.ceil else x.floor

/-- The remainder of two finite numbers, with the sign of the first. -/
def floatRemainder (x y : Float) : Float :=
  if !x.isFinite || y.isNaN || y == 0.0 then 0.0 / 0.0
  else if y.isInf then x
  else
    let a := Number.Binary.ofFloat x
    let b := Number.Binary.ofFloat y
    let e := min a.exponent b.exponent
    let m := a.mantissa * Nat.pow 2 (a.exponent - e).toNat
    let n := b.mantissa * Nat.pow 2 (b.exponent - e).toNat
    let r := (Float.ofNat (m % n)).scaleB e
    if x < 0.0 then -r else r

/-- The quotient rounded so that the remainder is not negative. -/
def floorDivide : Value → Value → Except Fault Value :=
  arithmetic
    (fun x y => if y == 0 then .error .invalidOperation else checked (x / y))
    (fun x y =>
      let q := truncate (x / y)
      if floatRemainder x y < 0.0 then (if y > 0.0 then q - 1.0 else q + 1.0) else q)

/-- The remainder; of whole numbers it is not negative. -/
def remainder : Value → Value → Except Fault Value :=
  arithmetic (fun x y => if y == 0 then .error .invalidOperation else checked (x % y))
    floatRemainder

/-- A power of a whole number, unless it is too large; stops as soon as it is. -/
def intPower (x : Int) : Nat → Except Fault Value
  | 0 => checked 1
  | n + 1 => do
    match ← intPower x n with
    | int p => checked (p * x)
    | v => return v

/-- Powers. A whole number is not raised to a negative one. -/
def power : Value → Value → Except Fault Value :=
  arithmetic
    (fun x y =>
      if y < 0 || y ≥ UInt32.size then .error .invalidOperation
      else if x == 0 || x == 1 then .ok (int (if y == 0 then 1 else x))
      else if x == -1 then .ok (int (if y % 2 == 0 then 1 else -1))
      else if y > 127 then .error .invalidOperation
      else intPower x y.toNat)
    Float.pow

/-- A number with its sign changed. -/
def negate : Value → Except Fault Value
  | int n => checked (-n)
  | float x => .ok (float (-x))
  | _ => .error .invalidOperation

/-- Positions from `start` on in steps of `step`, `count` of them at most, while they are before
`stop` on the way. -/
def positions (step stop : Int) : Nat → Int → List Nat
  | 0, _ => []
  | fuel + 1, i =>
    if (step > 0 && i < stop) || (step < 0 && i > stop) then
      i.toNat :: positions step stop fuel (i + step)
    else []

/-- The positions that a slice of `length` elements takes. -/
def slicePositions (length : Nat) (start stop : Option Int) (step : Int) : List Nat :=
  let n : Int := length
  let wrap (i : Int) : Int := if i < 0 then i + n else i
  if step > 0 then
    let first := match start with
      | some i => max 0 (min n (wrap i))
      | Option.none => 0
    let last := match stop with
      | some i => max 0 (min n (wrap i))
      | Option.none => n
    positions step last (length + 1) first
  else
    let first := match start with
      | some i => max (-1) (min (n - 1) (wrap i))
      | Option.none => n - 1
    let last := match stop with
      | some i => max (-1) (min (n - 1) (wrap i))
      | Option.none => -1
    positions step last (length + 1) first

/-- A bound of a slice; nothing if it is left out. -/
def bound? : Value → Except Fault (Option Int)
  | none => .ok Option.none
  | v => match v.toInt? with
    | some n => .ok (some n)
    | Option.none => .error .invalidOperation

/-- The part of a text or a list between two positions. -/
def slice (v start stop step : Value) : Except Fault Value := do
  let first ← bound? start
  let last ← bound? stop
  let by_ := (← bound? step).getD 1
  if by_ == 0 then throw .invalidOperation
  match v with
  | undefined false => throw .undefinedValue
  | undefined _ | none => return list []
  | text s =>
    let cs := s.toList
    return text (String.ofList ((slicePositions cs.length first last by_).filterMap (cs[·]?)))
  | list items =>
    return list ((slicePositions items.length first last by_).filterMap (items[·]?))
  | _ => throw .invalidOperation

end Value

/-- A binary operator that looks at both operands. -/
def BinaryOp.apply (op : BinaryOp) (a b : Value) : Except Fault Value :=
  match op with
  | .or => .ok (if a.isTrue then a else b)
  | .and => .ok (if a.isTrue then b else a)
  | .equal => .ok (.bool (a.equal b))
  | .unequal => .ok (.bool (!a.equal b))
  | .less => .ok (.bool (a.order b == .lt))
  | .lessOrEqual => .ok (.bool (a.order b != .gt))
  | .greater => .ok (.bool (a.order b == .gt))
  | .greaterOrEqual => .ok (.bool (a.order b != .lt))
  | .member =>
    match b with
    | .undefined false => .error .undefinedValue
    | b => a.member b
  | .add => a.add b
  | .subtract => Value.arithmetic (fun x y => Value.checked (x - y)) (· - ·) a b
  | .join => .ok (.text (a.toText ++ b.toText))
  | .multiply => a.multiply b
  | .divide => a.divide b
  | .floorDivide => a.floorDivide b
  | .remainder => a.remainder b
  | .power => a.power b

/-- The value of a literal. -/
def Literal.value : Literal → Value
  | .none => .none
  | .bool b => .bool b
  | .int n => .int n
  | .decimal digits exponent =>
    .float (if exponent < 0 then Float.ofScientific digits true (-exponent).toNat
      else Float.ofScientific digits false exponent.toNat)
  | .text s => .text s

end RowBindings.Template
