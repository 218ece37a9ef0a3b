import RowBindings.Source.Generics

/-!
# Types

Names, references, functions, arrays and the rest. An object of several bounds is written with
`dyn` before it.
-/

namespace RowBindings.Source

open Reader

namespace TypePiece

/-- The layout of bounds inside a line. -/
def sum (bounds : List Doc) : Doc := Doc.separated (Doc.word " + ") bounds

/-- An object with bounds. -/
def object (bounds : List Doc) : TypePiece where
  layout := Doc.word "dyn " ++ sum bounds

/-- Reads the name of a foreign convention after `extern`, if there is one. -/
def convention : Reader Doc := do
  word "extern"
  match ← ahead with
  | .literal text :: rest =>
    ensure (text.toList.head?.any fun c => c == '"' || c == 'r')
    set rest
    return Doc.word "extern " ++ Doc.word text ++ Doc.word " "
  | _ => return Doc.word "extern "

/-- Reads the convention, if one is ahead. -/
def convention? : Reader Doc := do
  if ← sees (Ahead.word "extern") then convention else return []

/-- Reads the name of an argument and its colon, if they are ahead. -/
def argumentName : Reader (Option String) := do
  let ts ← ahead
  let named := (Ahead.name ts || Ahead.anyOf ["_", "self"] ts) && Ahead.mark ":" (ts.drop 1)
    && !Ahead.mark "::" (ts.drop 1)
  if named then
    let name ← anyWord
    mark ":"
    return some name
  else return none

/-- An argument in the type of a function. -/
structure Argument where
  layout : Doc
  /-- It stands for any number of arguments, and only the last one may. -/
  isOpen : Bool
  /-- It has the name that only the first one may have. -/
  isSelf : Bool

/-- Reads an argument in the type of a function. -/
def argument (r : Readers) : Reader Argument := do
  let attributes ← Attribute.outer r
  let name? ← argumentName
  let start := attributes ++ match name? with
    | some name => Doc.word (name ++ ": ")
    | none => []
  let isOpen ← mark? "..."
  let type ← if isOpen then pure (Doc.word "...") else do pure (← r.type true).layout
  return { layout := start ++ type, isOpen, isSelf := name? == some "self" }

/-- Reads the type of a function. -/
def function (r : Readers) : Reader Doc := do
  let isUnsafe ← word? "unsafe"
  let convention ← convention?
  word "fn"
  let arguments ← inGroup .round (commaList (argument r))
  ensure (arguments.dropLast.all (!·.isOpen) && (arguments.drop 1).all (!·.isSelf))
  let isOpen := arguments.getLast?.any (·.isOpen)
  let trailing (isLast : Bool) : Doc := if isLast && isOpen then Doc.zero else Doc.comma isLast
  let output ← Path.result r false
  return (if isUnsafe then Doc.word "unsafe " else []) ++ convention ++ Doc.word "fn(" ++
    Doc.cbox Doc.indentation
      (Doc.zero ++ Doc.sequence trailing (arguments.map (·.layout)) ++ Doc.dedent) ++
    Doc.word ")" ++ Path.resultLayout output

/-- The layout of types in parentheses; a single one has a comma after it. -/
def tuple (types : List TypePiece) : Doc :=
  match types with
  | [t] => Doc.word "(" ++
      Doc.cbox Doc.indentation (Doc.zero ++ t.layout ++ Doc.word "," ++ Doc.zero ++ Doc.dedent) ++
      Doc.word ")"
  | _ => Doc.bracketed "(" ")" (types.map (·.layout))

/-- Reads what follows in parentheses. -/
inductive Enclosed
  | tuple (types : List TypePiece)
  | bound (layout : Doc)
  | bounds (layouts : List Doc)
  | type (t : TypePiece)

/-- Reads the inside of parentheses. -/
def enclosed (r : Readers) : Reader Enclosed := do
  let ts ← ahead
  if ts.isEmpty then return .tuple []
  else if Ahead.lifetime ts then return .bounds (← Generics.bounds r true false)
  else if Ahead.mark "?" ts then return .bound (← Generics.traitBound r)
  else
    let first ← r.type true
    if ← mark? "," then return .tuple (first :: (← commaList (r.type true)))
    else return .type first

/-- Reads the bounds that follow a first one, each after a plus. -/
def furtherBounds (r : Readers) : Reader (List Doc) :=
  whileSeen (Ahead.mark "+") (do mark "+"; r.bound)

/-- Reads the bounds that follow a first one, and perhaps a plus after the last. -/
def moreBounds (r : Readers) : Reader (List Doc) := do
  let more ← whileSeen (fun ts => Ahead.mark "+" ts && Generics.seesBound (ts.drop 1))
    (do mark "+"; r.bound)
  discard (mark? "+")
  return more

/-- Reads a type in parentheses. -/
def parenthesized (r : Readers) (several : Bool) : Reader TypePiece := do
  let paren (d : Doc) : Doc := Doc.word "(" ++ d ++ Doc.word ")"
  match ← inGroup .round (enclosed r) with
  | .tuple types => return { layout := tuple types }
  | .bounds layouts => return { layout := paren (object layouts).layout, isEnclosed := true }
  | .bound layout => return object (paren layout :: (← furtherBounds r))
  | .type t =>
    if several && t.isOneBound && (← sees (Ahead.mark "+")) then
      let layout := match t.path? with
        | some p => p.layout
        | none => t.layout.drop 1
      return object (paren layout :: (← furtherBounds r))
    else return { layout := paren t.layout, isEnclosed := true }

/-- Reads a path, an invocation, or a sum of bounds that starts with a path. -/
def named (r : Readers) (several : Bool) (lifetimes : Doc) : Reader TypePiece := do
  let p ← Path.ofType r
  if p.isQualified then return { layout := p.layout }
  let ts ← ahead
  if Ahead.mark "!" ts && !Ahead.mark "!=" ts && p.isBare then
    mark "!"
    let (b, inner) ← anyGroup
    return { layout := Invocation.layout p.layout none b inner false }
  else if !lifetimes.isEmpty || (several && Ahead.mark "+" ts) then
    let more ← if several then moreBounds r else pure []
    return { object ((lifetimes ++ p.layout) :: more) with isOneBound := more.isEmpty }
  else return { layout := p.layout, path? := some p, isOneBound := true }

/-- Reads a type. -/
def read (r : Readers) (several : Bool) : Reader TypePiece := do
  let lifetimes ← Generics.lifetimes r
  let ts ← ahead
  if Ahead.group .round ts && lifetimes.isEmpty then parenthesized r several
  else if Ahead.anyOf ["fn", "unsafe", "extern"] ts then
    return { layout := lifetimes ++ (← function r) }
  else if Ahead.path ts && (lifetimes.isEmpty || !Ahead.mark "::" ts) then
    named r several lifetimes
  else if Ahead.mark "<" ts && lifetimes.isEmpty then named r several lifetimes
  else if !lifetimes.isEmpty then failure
  else if ← word? "dyn" then return object (← Generics.bounds r several false)
  else if Ahead.group .square ts then
    let inside ← inGroup .square do
      let element ← r.type true
      if ← mark? ";" then
        return element.layout ++ Doc.word "; " ++ (← r.expression true).layout
      else return element.layout
    return { layout := Doc.word "[" ++ inside ++ Doc.word "]" }
  else if ← mark? "*" then
    let kind ← if ← word? "mut" then pure "*mut " else do word "const"; pure "*const "
    return { layout := Doc.word kind ++ (← r.type false).layout }
  else if ← mark? "&" then
    let lifetime ← when? Ahead.lifetime lifetime
    let isMutable ← word? "mut"
    let start := "&" ++ (lifetime.map (· ++ " ")).getD "" ++ (if isMutable then "mut " else "")
    return { layout := Doc.word start ++ (← r.type false).layout }
  else if Ahead.mark "!" ts && !Ahead.mark "!=" ts then
    mark "!"
    return { layout := Doc.word "!" }
  else if ← word? "impl" then
    return { layout := Doc.word "impl " ++ sum (← Generics.bounds r several true) }
  else if ← word? "_" then return { layout := Doc.word "_" }
  else if Ahead.lifetime ts then return object (← Generics.bounds r true false)
  else failure

end TypePiece

end RowBindings.Source
