import RowBindings.Source.Type

/-!
# Patterns

What stands on the left of a binding, in a match arm, and in the head of a function or closure.
-/

namespace RowBindings.Source

open Reader

namespace PatternPiece

/-! ## Alternatives -/

/-- Whether a bar is ahead that separates alternatives. -/
def seesBar (ts : List Tree) : Bool :=
  Ahead.mark "|" ts && !Ahead.mark "||" ts && !Ahead.mark "|=" ts

/-- Reads alternatives with a bar between each two, and perhaps before the first one. -/
def alternatives (r : Readers) : Reader PatternPiece := do
  let leading ← mark? "|"
  let first ← r.pattern
  if leading || seesBar (← ahead) then
    let others ← whileSeen seesBar (do mark "|"; r.pattern)
    let all := first :: others
    let inside := Doc.separated (Doc.space ++ Doc.word "| ") (all.map (·.layout))
    return { layout := if all.all (·.isSimple) then Doc.ibox 0 inside else Doc.cbox 0 inside }
  else return first

/-! ## Ranges -/

/-- Whether the upper end of a range lacks. -/
def seesNoEnd (ts : List Tree) : Bool :=
  ts.isEmpty || Ahead.mark "|" ts || Ahead.mark "=" ts
    || (Ahead.mark ":" ts && !Ahead.mark "::" ts) || Ahead.mark "," ts || Ahead.mark ";" ts
    || Ahead.word "if" ts

/-- A constant computed by statements. -/
def constantBlock (r : Readers) : Reader Doc := do
  word "const"
  return Doc.word "const " ++ (← Path.constantBlock r)

/-- Reads an end of a range, if there is one, and says whether it is a literal. -/
def rangeEnd (r : Readers) : Reader (Option (Doc × Bool)) := do
  let ts ← ahead
  if seesNoEnd ts then return none
  else if Ahead.literal ts then return some (Doc.word (← literal), true)
  else if Ahead.path ts || Ahead.mark "<" ts then return some ((← Path.read r true).layout, false)
  else if Ahead.word "const" ts then return some (← constantBlock r, false)
  else failure

/-- Reads the dots of a range and its upper end, which only two dots can go without. -/
def rangeFrom (r : Readers) (start : Doc) : Reader PatternPiece := do
  let dots ←
    if ← mark? "..=" then pure "..="
    else if ← mark? "..." then pure "..="
    else do mark ".."; pure ".."
  let isHalfOpen := start.isEmpty
  match ← rangeEnd r with
  | some (d, _) =>
    let start := if start.isEmpty then Doc.blankAfter '.' else start
    return { layout := start ++ Doc.word dots ++ d, isHalfOpen }
  | none =>
    ensure (dots == "..")
    return { layout := start ++ Doc.word dots, isHalfOpen := true, isRest := isHalfOpen }

/-! ## Parts in brackets -/

/-- Reads alternatives with commas between them up to the end, and says whether a comma came
last. -/
def list (r : Readers) : Reader (List PatternPiece × Bool) :=
  separated "," (·.isEmpty) (alternatives r)

/-- Reads a pattern in parentheses, or several of them. -/
def tuple (r : Readers) : Reader PatternPiece := do
  let (parts, trailing) ← inGroup .round (list r)
  match parts with
  | [p] =>
    if !trailing && !p.isRest then
      return { layout := Doc.word "(" ++ p.layout ++ Doc.word ")" }
    else
      let comma := if trailing then Doc.word "," else []
      return {
        layout := Doc.word "(" ++
          Doc.cbox Doc.indentation (Doc.zero ++ p.layout ++ comma ++ Doc.zero ++ Doc.dedent) ++
          Doc.word ")" }
  | _ => return { layout := Doc.bracketed "(" ")" (parts.map (·.layout)) }

/-- Reads the elements of a slice. A range open on one side needs parentheses there. -/
def slice (r : Readers) : Reader PatternPiece := do
  let (parts, _) ← inGroup .square (list r)
  ensure (parts.all fun p => p.isRest || !p.isHalfOpen)
  return {
    layout := Doc.word "[" ++ Doc.sequence Doc.comma (parts.map (·.layout)) ++ Doc.word "]" }

/-- The number of a field as it is written: a whole number without suffix, in any base. -/
def fieldNumber? (text : String) : Option String :=
  let (base, cs) : Nat × List Char := match text.toList with
    | '0' :: 'x' :: rest => (16, rest)
    | '0' :: 'o' :: rest => (8, rest)
    | '0' :: 'b' :: rest => (2, rest)
    | cs => (10, cs)
  let digits := (cs.filter (· != '_')).mapM fun c =>
    (Unicode.CodeRanges.hexDigit? c).filter (· < base)
  match digits with
  | none | some [] => none
  | some ds =>
    let n := ds.foldl (fun n d => n * base + d) 0
    if n < UInt32.size then some (toString n) else none

/-- Takes the name or the number of a field. -/
def fieldName : Reader (String × Bool) := do
  match ← ahead with
  | .literal text :: rest =>
    match fieldNumber? text with
    | some number => set rest; return (number, false)
    | none => failure
  | _ => return (← name, true)

/-- Reads a field of a structure. -/
def field (r : Readers) : Reader Doc := do
  let isReference ← word? "ref"
  let isMutable ← word? "mut"
  let (name, isNamed) ← if isReference || isMutable then do pure (← Reader.name, true)
    else fieldName
  if (!isReference && !isMutable && (← sees (Ahead.mark ":"))) || !isNamed then
    mark ":"
    return Doc.word (name ++ ": ") ++ (← alternatives r).layout
  else
    return Doc.word
      ((if isReference then "ref " else "") ++ (if isMutable then "mut " else "") ++ name)

/-- Reads the fields of a structure, and whether two dots stand for the rest. -/
def fields (r : Readers) : Reader (List Doc × Option Doc) := do
  go ((← ahead).length + 1)
where
  go : Nat → Reader (List Doc × Option Doc)
    | 0 => failure
    | fuel + 1 => do
      if (← ahead).isEmpty then return ([], none)
      let attributes ← Attribute.outer r
      if ← mark? ".." then return ([], some (attributes ++ Doc.word ".."))
      let f ← field r
      let f := attributes ++ f
      if ← mark? "," then
        let (others, rest) ← go fuel
        return (f :: others, rest)
      else return ([f], none)

/-- Reads a structure after its path. -/
def record (r : Readers) (path : Doc) : Reader PatternPiece := do
  let (fields, rest) ← inGroup .curly (fields r)
  let after (isLast : Bool) : Doc := Doc.commaOrSpace (isLast && rest.isNone)
  let rest := match rest with
    | some d => d ++ Doc.space
    | none => []
  return {
    layout := Doc.cbox Doc.indentation
      (path ++ Doc.word " \x7b" ++ Doc.spaceIfFollowed ++ Doc.sequence after fields ++ rest ++
        Doc.dedent) ++ Doc.word "\x7d" }

/-! ## Patterns -/

/-- Reads a pattern that starts with a path. -/
def ofPath (r : Readers) : Reader PatternPiece := do
  let p ← Path.read r true
  let ts ← ahead
  if !p.isQualified && Ahead.mark "!" ts && !Ahead.mark "!=" ts && p.isBare then
    mark "!"
    let (b, inner) ← anyGroup
    return { layout := Invocation.layout p.layout none b inner false }
  else if Ahead.group .curly ts then record r p.layout
  else if Ahead.group .round ts then
    let (parts, _) ← inGroup .round (list r)
    return { layout := p.layout ++ Doc.bracketed "(" ")" (parts.map (·.layout)) }
  else if Ahead.mark ".." ts then rangeFrom r p.layout
  else return { layout := p.layout }

/-- Reads a name that is bound, and the pattern behind it. -/
def binding (r : Readers) : Reader PatternPiece := do
  let isReference ← word? "ref"
  let isMutable ← word? "mut"
  let name ← nameOr ["self"]
  let start := Doc.word
    ((if isReference then "ref " else "") ++ (if isMutable then "mut " else "") ++ name)
  if ← mark? "@" then return { layout := start ++ Doc.word " @ " ++ (← r.pattern).layout }
  else return { layout := start }

/-- Whether a path that is more than a name is ahead. -/
def seesPath (ts : List Tree) : Bool :=
  let next := ts.drop 1
  (Ahead.name ts &&
      (Ahead.mark "::" next || Ahead.mark "!" next || Ahead.group .curly next
        || Ahead.group .round next || Ahead.mark ".." next))
    || (Ahead.word "self" ts && Ahead.mark "::" next)
    || Ahead.mark "::" ts || Ahead.mark "<" ts || Ahead.anyOf ["Self", "super", "crate"] ts

/-- Reads a pattern without alternatives. -/
def read (r : Readers) : Reader PatternPiece := do
  let ts ← ahead
  if seesPath ts then ofPath r
  else if ← word? "_" then return { layout := Doc.word "_", isSimple := true }
  else if Ahead.mark "-" ts || Ahead.literal ts || Ahead.word "const" ts then
    match ← rangeEnd r with
    | some (d, isLiteral) =>
      if ← sees (Ahead.mark "..") then rangeFrom r d
      else return { layout := d, isSimple := isLiteral }
    | none => failure
  else if Ahead.anyOf ["ref", "mut", "self"] ts || Ahead.name ts then binding r
  else if ← mark? "&" then
    let isMutable ← word? "mut"
    let p ← r.pattern
    return { layout := Doc.word (if isMutable then "&mut " else "&") ++ p.layout }
  else if Ahead.group .round ts then tuple r
  else if Ahead.group .square ts then slice r
  else if Ahead.mark ".." ts && !Ahead.mark "..." ts then rangeFrom r []
  else failure

end PatternPiece

end RowBindings.Source
