import RowBindings.Pattern.Basic

/-!
# Reading patterns

Patterns are written as regular expressions: alternatives separated by bars, repetition marks after
an item, groups in parentheses, sets in brackets, escapes after a backslash. A text that is no
pattern, or that takes too large a machine, is refused.
-/

namespace RowBindings.Pattern

open RowBindings.Unicode

/-- What flags say about the part of a pattern where they hold. -/
structure Flags where
  ignoreCase : Bool := false
  multiLine : Bool := false
  dotMatchesLineEnd : Bool := false
  swapGreed : Bool := false
  unicode : Bool := true
  crlf : Bool := false
  /-- Blanks and comments between items mean nothing. -/
  verbose : Bool := false

/-- The flag letters, each with how it is set. -/
def Flags.set (f : Flags) (letter : Char) (on : Bool) : Option Flags :=
  match letter with
  | 'i' => some { f with ignoreCase := on }
  | 'm' => some { f with multiLine := on }
  | 's' => some { f with dotMatchesLineEnd := on }
  | 'U' => some { f with swapGreed := on }
  | 'u' => some { f with unicode := on }
  | 'R' => some { f with crlf := on }
  | 'x' => some { f with verbose := on }
  | _ => none

namespace Reader

/-- Skips blanks and comments where they mean nothing. -/
def skipVerbose (f : Flags) (cs : List Char) : List Char :=
  if f.verbose then go cs false else cs
where
  go : List Char → Bool → List Char
    | [], _ => []
    | c :: rest, inComment =>
      if inComment then go rest (c != '\n')
      else if c == '#' then go rest true
      else if isBlank c then go rest false
      else c :: rest

/-- The characters at the front that are of a class, at most `n` of them. Blanks and comments between
them are skipped where they mean nothing. -/
def spacedRun (f : Flags) (p : Char → Bool) : Nat → List Char → List Char × List Char
  | n + 1, c :: rest =>
    if p c then
      let (run, after) := spacedRun f p n (skipVerbose f rest)
      (c :: run, after)
    else ([], c :: rest)
  | _, cs => ([], cs)

/-- What stands between an opening brace and the closing one, and what follows that. -/
def braced? (f : Flags) (cs : List Char) : Option (List Char × List Char) :=
  let (inside, rest) := spacedRun f (· != '\x7d') cs.length (skipVerbose f cs)
  match rest with
  | _ :: after => some (inside, after)
  | [] => none

/-! ## Case -/

/-- A set closed under case if flags ask for it, within the basic Latin block if they ask for that
too. -/
def foldedSet (f : Flags) (s : CharSet) : CharSet :=
  if !f.ignoreCase then s
  else if f.unicode then .anyCase s
  else .union s (.inter (.anyCase s) (.range 0 0x7F))

/-- The set of one character as flags ask for it. -/
def charSet (f : Flags) (c : Char) : CharSet :=
  if f.unicode || c.toNat < 0x80 then foldedSet f (.single c) else .single c

/-! ## Escapes -/

/-- Characters that mean something in a pattern. -/
def isMeta (c : Char) : Bool :=
  "\\.+*?()|[]\x7b\x7d^$#&-~".toList.contains c

/-- Characters that a backslash may stand before without meaning anything. -/
def isEscapable (c : Char) : Bool :=
  isMeta c || (c.toNat < 0x80 && !c.isAlphanum && c != '<' && c != '>')

/-- What an escape, or a character on its own, stands for. -/
inductive Primitive
  | char (c : Char)
  | set (s : CharSet)
  | assertion (a : Assertion)

/-- The character with a hexadecimal code. -/
def charOfHex? (digits : List Char) : Option Char := do
  if digits.isEmpty then none
  let n ← digits.foldlM
    (fun n c => do
      let d ← CodeRanges.hexDigit? c
      if n < 0x110000 then some (n * 16 + d) else none) 0
  if h : n.isValidChar then some (Char.ofNatAux n h) else none

/-- A hexadecimal escape: a fixed number of digits, or any number in braces. Two digits may stand for
a byte, and outside of the basic Latin block a byte is no character. -/
def hexEscape? (f : Flags) (count : Nat) (cs : List Char) : Option (Char × List Char) :=
  match skipVerbose f cs with
  | '\x7b' :: rest => do
    let (digits, after) ← braced? f rest
    return (← charOfHex? digits, after)
  | cs => do
    let (digits, after) := spacedRun f (fun _ => true) count cs
    let c ← charOfHex? digits
    if digits.length < count || (count = 2 && !f.unicode && 0x80 ≤ c.toNat) then none
    return (c, after)

/-- A property after `\p`: one letter, or a name in braces. -/
def propertyEscape? (f : Flags) (negated : Bool) (cs : List Char) :
    Option (CharSet × List Char) :=
  match skipVerbose f cs with
  | '\x7b' :: rest => do
    let (name, after) ← braced? f rest
    let (set, unequal) ← splitName name
    return (CharSet.negateIf (negated != unequal) (foldedSet f set), after)
  | '\\' :: _ => none
  | c :: rest => do
    return (CharSet.negateIf negated (foldedSet f (← CharSet.property? [c])), rest)
  | [] => none
where
  /-- A name alone, or a name and a value with `!=`, `:` or `=` between them. -/
  splitName (name : List Char) : Option (CharSet × Bool) :=
    let rec at? (mark : List Char) : List Char → List Char → Option (List Char × List Char)
      | _, [] => none
      | before, c :: rest =>
        if mark.isPrefixOf (c :: rest) then some (before.reverse, (c :: rest).drop mark.length)
        else at? mark (c :: before) rest
    match at? ['!', '='] [] name with
    | some (p, v) => (CharSet.propertyValue? p v).map (·, true)
    | none =>
      match at? [':'] [] name with
      | some (p, v) => (CharSet.propertyValue? p v).map (·, false)
      | none =>
        match at? ['='] [] name with
        | some (p, v) => (CharSet.propertyValue? p v).map (·, false)
        | none => (CharSet.property? name).map (·, false)

/-- A set escape in its form for every script, or for the basic Latin block. The complement of a
plain set would hold parts of characters and is refused. -/
private def perlSet (f : Flags) (negated : Bool) (full plain : CharSet) : Option CharSet :=
  if f.unicode then some (CharSet.negateIf negated full)
  else if negated then none
  else some plain

/-- The boundary that a name in braces after `\b` asks for. -/
private def specialBoundary? (f : Flags) : List Char → Option (Assertion × List Char)
  | '\x7b' :: rest => do
    let plain := !f.unicode
    let (name, after) ← braced? f rest
    let a ← [ ("start", Assertion.wordStart plain), ("end", .wordEnd plain),
      ("start-half", .wordStartHalf plain), ("end-half", .wordEndHalf plain)
    ].lookup (String.ofList name)
    return (a, after)
  | _ => none

/-- What follows a backslash. -/
def escape? (f : Flags) : List Char → Option (Primitive × List Char)
  | [] => none
  | c :: rest =>
    let plain := !f.unicode
    if c.isDigit then none
    else match c with
    | 'x' => (hexEscape? f 2 rest).map fun (c, r) => (.char c, r)
    | 'u' => (hexEscape? f 4 rest).map fun (c, r) => (.char c, r)
    | 'U' => (hexEscape? f 8 rest).map fun (c, r) => (.char c, r)
    | 'p' => if plain then none else (propertyEscape? f false rest).map fun (s, r) => (.set s, r)
    | 'P' => if plain then none else (propertyEscape? f true rest).map fun (s, r) => (.set s, r)
    | 'd' => (perlSet f false .digit .plainDigit).map fun s => (.set s, rest)
    | 'D' => (perlSet f true .digit .plainDigit).map fun s => (.set s, rest)
    | 's' => (perlSet f false .space .plainSpace).map fun s => (.set s, rest)
    | 'S' => (perlSet f true .space .plainSpace).map fun s => (.set s, rest)
    | 'w' => (perlSet f false .word .plainWord).map fun s => (.set s, rest)
    | 'W' => (perlSet f true .word .plainWord).map fun s => (.set s, rest)
    | 'a' => some (.char '\x07', rest)
    | 'f' => some (.char '\x0c', rest)
    | 't' => some (.char '\t', rest)
    | 'n' => some (.char '\n', rest)
    | 'r' => some (.char '\r', rest)
    | 'v' => some (.char '\x0b', rest)
    | 'A' => some (.assertion .textStart, rest)
    | 'z' => some (.assertion .textEnd, rest)
    | 'b' =>
      match specialBoundary? f rest with
      | some (a, r) => some (.assertion a, r)
      | none => some (.assertion (.wordBoundary plain), rest)
    | 'B' => some (.assertion (.notWordBoundary plain), rest)
    | '<' => some (.assertion (.wordStart plain), rest)
    | '>' => some (.assertion (.wordEnd plain), rest)
    | c => if isEscapable c then some (.char c, rest) else none

/-! ## Sets in brackets -/

/-- One end of a range, or a set escape. Where characters of other scripts are out of reach, none of
them may be in a set. -/
def setPrimitive? (f : Flags) (cs : List Char) : Option (Primitive × List Char) := do
  let (p, rest) ← match cs with
    | [] => none
    | '\\' :: rest => escape? f rest
    | c :: rest => some (.char c, rest)
  match p with
  | .assertion _ => none
  | .char c => if f.unicode || c.toNat < 0x80 then some (p, rest) else none
  | .set _ => some (p, rest)

/-- A character, a range of characters or a set escape. -/
def setRange? (f : Flags) (cs : List Char) : Option (CharSet × List Char) := do
  let (first, rest) ← setPrimitive? f cs
  let rest := skipVerbose f rest
  let alone : Option (CharSet × List Char) :=
    match first with
    | .char c => some (.single c, rest)
    | .set s => some (s, rest)
    | .assertion _ => none
  match rest with
  | [] => none
  | '-' :: more =>
    match skipVerbose f more with
    | ']' :: _ | '-' :: _ => alone
    | more => do
      let (last, after) ← setPrimitive? f more
      match first, last with
      | .char a, .char b => if a ≤ b then some (.range a.toNat b.toNat, after) else none
      | _, _ => none
  | _ => alone

/-- A named set of the basic Latin block, as in `[:alpha:]`, and whether its complement is meant. -/
def namedSet? : List Char → Option (CharSet × Bool × List Char)
  | '[' :: ':' :: cs =>
    let (negated, cs) := match cs with
      | '^' :: rest => (true, rest)
      | _ => (false, cs)
    match cs.dropWhile (· != ':') with
    | ':' :: ']' :: after =>
      (CharSet.bracketNamed? (String.ofList (cs.takeWhile (· != ':')))).map fun s =>
        (s, negated, after)
    | _ => none
  | _ => none

/-- A set as flags and a sign of complement ask for it. Where characters of other scripts are out of
reach a complement is refused. -/
def finished? (f : Flags) (negated : Bool) (s : CharSet) : Option CharSet :=
  if negated && !f.unicode then none else some (CharSet.negateIf negated (foldedSet f s))

/-- How two sets are combined. -/
inductive SetOp
  | inter
  | diff
  | symmDiff

/-- What has been read of a set in brackets since its opening or its last operation, with the levels
of nesting below it. -/
structure SetItems where
  set : CharSet := .nothing
  count : Nat := 0
  nesting : Nat := 0

namespace SetItems

/-- Adds an item. -/
def push (items : SetItems) (s : CharSet) (nesting : Nat) : SetItems where
  set := .union items.set s
  count := items.count + 1
  nesting := items.nesting.max nesting

/-- The levels of nesting of the items taken together. -/
def depth (items : SetItems) : Nat :=
  if items.count ≤ 1 then items.nesting else items.nesting + 1

end SetItems

/-- The set on the left of an operation, whose levels of nesting are known. -/
structure SetOperand where
  set : CharSet
  depth : Nat
  op : SetOp

/-- Combines the set on the left, if there is one, with the one read after it. -/
def combine (f : Flags) (pending : Option SetOperand) (right : SetItems) : CharSet × Nat :=
  match pending with
  | none => (right.set, right.depth)
  | some left =>
    let a := foldedSet f left.set
    let b := foldedSet f right.set
    let set := match left.op with
      | .inter => CharSet.inter a b
      | .diff => .diff a b
      | .symmDiff => .symmDiff a b
    (set, left.depth.max right.depth + 1)

/-- The opening of a set: whether it is a complement, and what stands for itself at its start. -/
def setOpening (f : Flags) (cs : List Char) : Bool × SetItems × List Char :=
  let cs := skipVerbose f cs
  let (negated, cs) := match cs with
    | '^' :: rest => (true, skipVerbose f rest)
    | _ => (false, cs)
  let (dashes, rest) := spacedRun f (· == '-') cs.length cs
  let items := dashes.foldl (fun items c => items.push (.single c) 0) ({} : SetItems)
  match dashes, rest with
  | [], ']' :: rest => (negated, items.push (.single ']') 0, skipVerbose f rest)
  | _, _ => (negated, items, rest)

/-- The rest of a set after its opening, with the items read and the operation that waits for its
right side. Gives the set and its levels of nesting. -/
def setBody? (f : Flags) : Nat → Bool → SetItems → Option SetOperand → List Char →
    Option (CharSet × Nat × List Char)
  | 0, _, _, _, _ => none
  | fuel + 1, negated, items, pending, cs =>
    let operation (op : SetOp) (rest : List Char) : Option (CharSet × Nat × List Char) :=
      let (set, depth) := combine f pending items
      setBody? f fuel negated {} (some { set, depth, op }) rest
    match skipVerbose f cs with
    | [] => none
    | '[' :: rest =>
      match namedSet? ('[' :: rest) with
      | some (s, isComplement, after) => do
        setBody? f fuel negated (items.push (← finished? f isComplement s) 0) pending after
      | none => do
        let (inner, first, cs) := setOpening f rest
        let (s, depth, after) ← setBody? f fuel inner first none cs
        setBody? f fuel negated (items.push s depth) pending after
    | ']' :: rest => do
      let (set, depth) := combine f pending items
      return (← finished? f negated set, depth + 1, rest)
    | '&' :: '&' :: rest => operation .inter rest
    | '-' :: '-' :: rest => operation .diff rest
    | '~' :: '~' :: rest => operation .symmDiff rest
    | cs => do
      let (s, after) ← setRange? f cs
      setBody? f fuel negated (items.push s 0) pending after

/-- A set after its opening bracket, with its levels of nesting. -/
def set? (f : Flags) (cs : List Char) : Option (CharSet × Nat × List Char) :=
  let (negated, first, rest) := setOpening f cs
  setBody? f (cs.length + 1) negated first none rest

/-! ## Repetition -/

/-- A decimal number with blanks around it. -/
def decimal? (f : Flags) (cs : List Char) : Option (Nat × List Char) :=
  let (digits, rest) := spacedRun f Char.isDigit cs.length (cs.dropWhile isBlank)
  let n := digits.foldl (fun n c => n * 10 + (c.toNat - '0'.toNat)) 0
  if digits.isEmpty || n ≥ UInt32.size then none
  else some (n, rest.dropWhile isBlank)

/-- The bounds of a counted repetition after its opening brace. -/
def bounds? (f : Flags) (cs : List Char) : Option (Nat × Option Nat × List Char) := do
  let (low, rest) ← decimal? f (skipVerbose f cs)
  match rest with
  | ',' :: rest =>
    match skipVerbose f rest with
    | '\x7d' :: after => some (low, none, after)
    | rest => do
      let (high, rest) ← decimal? f rest
      match rest with
      | '\x7d' :: after => if low ≤ high then some (low, some high, after) else none
      | _ => none
  | '\x7d' :: after => some (low, some low, after)
  | _ => none

/-- Skips the mark of a reluctant repetition. -/
def skipLazy : List Char → List Char
  | '?' :: rest => rest
  | cs => cs

/-! ## Groups -/

/-- The flags of `(?flags)` or `(?flags:`, read up to the sign that ends them. -/
def flags? (f : Flags) (seen : List Char) (on : Bool) : List Char → Option (Flags × List Char)
  | [] => none
  | c :: rest =>
    if c == ':' || c == ')' then
      if !on && seen.head? == some '-' then none
      else some (f, c :: rest)
    else if c == '-' then
      if seen.contains '-' then none else flags? f ('-' :: seen) false rest
    else if seen.contains c then none
    else do flags? (← f.set c on) (c :: seen) on rest

/-- Whether a character may stand in the name of a group. -/
def isNameChar (first : Bool) (c : Char) : Bool :=
  c == '_' || Property.alphabetic.contains c
    || (!first && (c == '.' || c == '[' || c == ']' || CharSet.digit.contains c.toNat
      || Category.letterNumber.contains c || Category.otherNumber.contains c))

/-- The name of a group, and what follows it. -/
def groupName? (cs : List Char) : Option (List Char × List Char) :=
  let name := cs.takeWhile (· != '>')
  match name, cs.dropWhile (· != '>') with
  | c :: more, _ :: after =>
    if isNameChar true c && more.all (isNameChar false) then some (name, after) else none
  | _, _ => none

/-- A part of a pattern with the levels of nesting in it: groups, repetitions, sets in brackets,
alternatives, and items one after the other count as one each. -/
structure Part where
  expr : Expr
  depth : Nat := 0

/-- Where reading stands inside a group: the flags that hold, the group names taken, the finished
alternatives, the finished items of this alternative with how many there are, and the last item,
which a repetition mark would apply to. -/
structure State where
  flags : Flags
  names : List (List Char)
  alternatives : Option Part := none
  items : Part := { expr := .empty }
  count : Nat := 0
  last : Option Part := none

namespace State

/-- Appends to a sequence. -/
private def append : Expr → Expr → Expr
  | .empty, e => e
  | e, .empty => e
  | a, b => .seq a b

/-- Adds an item to the finished ones. -/
def finish (s : State) (p : Part) : State :=
  { s with
    items := { expr := append s.items.expr p.expr, depth := s.items.depth.max p.depth }
    count := s.count + 1
    last := none }

/-- Moves the last item to the finished ones. -/
def settle (s : State) : State :=
  match s.last with
  | some p => s.finish p
  | none => s

/-- Adds an item. -/
def push (s : State) (p : Part) : State :=
  { s.settle with last := some p }

/-- Goes on with other flags. What sets them counts as an item. -/
def withFlags (s : State) (flags : Flags) : State :=
  { s.settle.finish { expr := .empty } with flags }

/-- The items of the alternative that is read. -/
def branch (s : State) : Part :=
  let s := s.settle
  if s.count ≤ 1 then s.items else { s.items with depth := s.items.depth + 1 }

/-- The alternatives read so far. -/
def allBranches (s : State) : Part :=
  let last := s.branch
  match s.alternatives with
  | none => last
  | some p => { expr := .alt p.expr last.expr, depth := p.depth.max last.depth }

/-- The pattern read so far. -/
def result (s : State) : Part :=
  let all := s.allBranches
  if s.alternatives.isSome then { all with depth := all.depth + 1 } else all

/-- Ends an alternative. -/
def bar (s : State) : State :=
  { flags := s.flags, names := s.names, alternatives := some s.allBranches }

/-- Repeats the last item. -/
def repeatLast (s : State) (min : Nat) (max : Option Nat) : Option State :=
  s.last.map fun p =>
    { s with last := some { expr := .repeated p.expr min max, depth := p.depth + 1 } }

end State

/-- Any character, except line ends unless flags say otherwise. -/
def dot (f : Flags) : Option CharSet :=
  if !f.unicode then none
  else if f.dotMatchesLineEnd then some (.range 0 0x10FFFF)
  else if f.crlf then some (.complement (.union (.single '\n') (.single '\r')))
  else some (.complement (.single '\n'))

/-- Reads the inside of a group up to the parenthesis that closes it, or to the end. -/
def body? : Nat → State → List Char → Option (State × List Char)
  | 0, _, _ => none
  | fuel + 1, s, cs =>
    let item (e : Expr) (rest : List Char) : Option (State × List Char) :=
      body? fuel (s.push { expr := e }) rest
    match skipVerbose s.flags cs with
    | [] => some (s, [])
    | ')' :: rest => some (s, ')' :: rest)
    | '|' :: rest => body? fuel s.bar rest
    | '(' :: rest =>
      let group (inner : Flags) (names : List (List Char)) (cs : List Char) :
          Option (State × List Char) := do
        let (t, rest) ← body? fuel { flags := inner, names } cs
        match rest with
        | ')' :: after =>
          let p := t.result
          body? fuel { s.push { p with depth := p.depth + 1 } with names := t.names } after
        | _ => none
      let named (cs : List Char) : Option (State × List Char) := do
        let (name, after) ← groupName? cs
        if s.names.contains name then none
        else group s.flags (name :: s.names) after
      match skipVerbose s.flags rest with
      | '?' :: 'P' :: '<' :: cs => named cs
      | '?' :: '<' :: '=' :: _ | '?' :: '<' :: '!' :: _ => none
      | '?' :: '<' :: cs => named cs
      | '?' :: cs => do
        let (inner, cs) ← flags? s.flags [] true cs
        match cs with
        | ':' :: cs => group inner s.names cs
        | _ :: after =>
          if (rest.dropWhile (· != '?')).take 2 == ['?', ')'] then none
          else body? fuel (s.withFlags inner) after
        | [] => none
      | cs => group s.flags s.names cs
    | '[' :: rest => do
      let (set, depth, after) ← set? s.flags rest
      body? fuel (s.push { expr := .set set, depth }) after
    | '?' :: rest => do body? fuel (← s.repeatLast 0 (some 1)) (skipLazy rest)
    | '*' :: rest => do body? fuel (← s.repeatLast 0 none) (skipLazy rest)
    | '+' :: rest => do body? fuel (← s.repeatLast 1 none) (skipLazy rest)
    | '\x7b' :: rest => do
      let (min, max, after) ← bounds? s.flags rest
      body? fuel (← s.repeatLast min max) (skipLazy (skipVerbose s.flags after))
    | '.' :: rest => do item (.set (← dot s.flags)) rest
    | '^' :: rest =>
      item (.assertion (if s.flags.multiLine then .lineStart s.flags.crlf else .textStart)) rest
    | '$' :: rest =>
      item (.assertion (if s.flags.multiLine then .lineEnd s.flags.crlf else .textEnd)) rest
    | '\\' :: rest => do
      let (p, after) ← escape? s.flags rest
      match p with
      | .char c => item (.set (charSet s.flags c)) after
      | .set set => item (.set set) after
      | .assertion a => item (.assertion a) after
    | c :: rest => item (.set (charSet s.flags c)) rest

end Reader

/-- The largest machine a pattern may take. -/
def weightLimit : Nat := 300000

/-- The most levels of nesting a pattern may have. -/
def depthLimit : Nat := 250

/-- The pattern that a text describes, if it is one. -/
def compile? (source : String) : Option Expr := do
  let cs := source.toList
  let (s, rest) ← Reader.body? (2 * cs.length + 2) { flags := {}, names := [] } cs
  match rest with
  | [] =>
    let p := s.result
    if p.depth ≤ depthLimit && p.expr.weight ≤ weightLimit then some p.expr else none
  | _ :: _ => none

end RowBindings.Pattern
