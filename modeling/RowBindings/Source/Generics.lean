import RowBindings.Source.Attribute

/-!
# Parameters and bounds

The parameters of a declaration in angle brackets, the bounds on types, and the conditions after
`where`.
-/

namespace RowBindings.Source

open Reader

namespace Generics

/-! ## Parameters -/

/-- Bounds with a plus between each two, the place before the plus a blank or a line end. -/
def boundsLayout (first : Doc) (bounds : List Doc) : Doc :=
  if bounds.isEmpty then [] else first ++ Doc.separated (Doc.space ++ Doc.word "+ ") bounds

/-- Reads a parameter after its attributes, and says whether it is a lifetime. -/
def parameter (r : Readers) (attributes : Doc) : Reader (Bool × Doc) := do
  let ts ← ahead
  let stop := fun ts => ts.isEmpty || Ahead.mark "," ts || Ahead.mark ">" ts
  if Ahead.lifetime ts then
    let name ← lifetime
    let bounds ← if ← mark? ":" then do pure (← separated "+" stop lifetime).1 else pure []
    let text := if bounds.isEmpty then name else name ++ ": " ++ String.intercalate " + " bounds
    return (true, attributes ++ Doc.word text)
  else if Ahead.word "const" ts then
    word "const"
    let name ← name
    mark ":"
    let type ← r.type true
    let value ← if ← mark? "=" then do
        if ← sees Ahead.name then pure (Doc.word " = " ++ Doc.word (← Reader.name))
        else pure (Doc.word " = " ++ (← Path.constant r))
      else pure []
    return (false, attributes ++ Doc.word ("const " ++ name ++ ": ") ++ type.layout ++ value)
  else
    if ← word? "_" then return (false, attributes ++ Doc.word "_")
    let name ← name
    let stop := fun ts => stop ts || Ahead.mark "=" ts
    let bounds ← if ← mark? ":" then do pure (← separated "+" stop r.bound).1 else pure []
    let value ← if ← mark? "=" then do
        pure (Doc.space ++ Doc.word "= " ++ (← r.type true).layout)
      else pure []
    return (false, attributes ++ Doc.word name ++
      Doc.ibox Doc.indentation (boundsLayout (Doc.word ": ") bounds ++ value))

/-- Whether parameters of a declaration are ahead rather than a type in angle brackets. -/
def seesParameters (ts : List Tree) : Bool :=
  let first := ts.drop 1
  let second := Ahead.skip first
  Ahead.mark "<" ts &&
    (Ahead.mark ">" first || Ahead.mark "#" first
      || ((Ahead.lifetime first || Ahead.name first) &&
        (Ahead.mark ">" second || Ahead.mark "," second
          || (Ahead.mark ":" second && !Ahead.mark "::" second) || Ahead.mark "=" second))
      || Ahead.word "const" first)

/-- Reads parameters in angle brackets. -/
def parameters (r : Readers) : Reader (List (Bool × Doc)) := do
  mark "<"
  let (parameters, _) ← separated "," (Ahead.mark ">") do
    parameter r (← Attribute.outer r)
  mark ">"
  return parameters

/-- Reads the parameters of a declaration, if there are any. Lifetimes are written first. -/
def read (r : Readers) : Reader Doc := do
  if !Ahead.mark "<" (← ahead) then return []
  let all ← parameters r
  if all.isEmpty then return []
  return Doc.word "<" ++
    Doc.cbox 0 (Doc.zero ++ Doc.sequence Doc.comma (Path.lifetimesFirst all) ++ Doc.dedent) ++
    Doc.word ">"

/-- Reads the lifetimes that a bound or a type is made for, if there are any. -/
def lifetimes (r : Readers) : Reader Doc := do
  if ← word? "for" then
    let all ← parameters r
    return Doc.word "for<" ++ Doc.separated (Doc.word ", ") (all.map (·.2)) ++ Doc.word "> "
  else return []

/-! ## Bounds -/

/-- Reads a bound by a trait. One that need not hold is made for no lifetimes. -/
def traitBound (r : Readers) : Reader Doc := do
  let before ← lifetimes r
  let isOptional ← mark? "?"
  let after ← if isOptional && before.isEmpty then lifetimes r else pure []
  ensure (!isOptional || (before.isEmpty && after.isEmpty))
  let path ← Path.ofBound r
  return before ++ after ++ (if isOptional then Doc.word "?" else []) ++ path.layout

/-- Reads a bound. -/
def bound (r : Readers) : Reader Doc := do
  let ts ← ahead
  if Ahead.lifetime ts then return Doc.word (← lifetime)
  else if Ahead.group .round ts then
    return Doc.word "(" ++ (← inGroup .round (traitBound r)) ++ Doc.word ")"
  else traitBound r

/-- Whether a bound is ahead. -/
def seesBound (ts : List Tree) : Bool :=
  Ahead.anyWord ts || Ahead.mark "::" ts || Ahead.mark "?" ts || Ahead.lifetime ts
    || Ahead.group .round ts

/-- Reads the parameters that a hidden type captures. -/
def captured : Reader Doc := do
  word "use"
  mark "<"
  let parameter := do
    if ← sees Ahead.lifetime then lifetime else nameOr ["Self"]
  let (all, _) ← separated "," (Ahead.mark ">") parameter
  mark ">"
  return Doc.word ("use<" ++ String.intercalate ", " all ++ ">")

/-- Reads bounds with a plus between each two, and perhaps after the last; a single one if only
that is allowed. At least one of them is a trait. What is captured may be among those of a hidden
type. -/
def bounds (r : Readers) (several isHidden : Bool) : Reader (List Doc) := do
  let one : Reader (Bool × Doc) := do
    let ts ← ahead
    if isHidden && Ahead.word "use" ts then return (false, ← captured)
    else return (!Ahead.lifetime ts, ← r.bound)
  let first ← one
  let more ←
    if several then do
      let more ← whileSeen (fun ts => Ahead.mark "+" ts && seesBound (ts.drop 1))
        (do mark "+"; one)
      discard (mark? "+")
      pure more
    else pure []
  ensure ((first :: more).any (·.1))
  return (first :: more).map (·.2)

/-! ## Conditions -/

/-- Whether the list of conditions, or of bounds in a condition, ends. -/
def seesConditionEnd (ts : List Tree) : Bool :=
  ts.isEmpty || Ahead.group .curly ts || Ahead.mark "," ts || Ahead.mark ";" ts
    || (Ahead.mark ":" ts && !Ahead.mark "::" ts) || Ahead.mark "=" ts

/-- Reads a condition. -/
def condition (r : Readers) : Reader Doc := do
  let ts ← ahead
  let layout (subject : Doc) (indent : Int) (bounds : List Doc) : Doc :=
    subject ++ Doc.word ":" ++ Doc.ibox indent (boundsLayout (Doc.word " ") bounds)
  if Ahead.lifetime ts && Ahead.mark ":" (Ahead.skip ts) then
    let name ← lifetime
    mark ":"
    let (bounds, _) ← separated "+" seesConditionEnd lifetime
    return layout (Doc.word name) Doc.indentation (bounds.map Doc.word)
  else
    let before ← lifetimes r
    let type ← r.type true
    mark ":"
    let (bounds, _) ← separated "+" seesConditionEnd r.bound
    return layout (before ++ type.layout) (if bounds.length == 1 then 0 else Doc.indentation) bounds

/-- Reads the conditions after `where`, if there are any. -/
def conditions (r : Readers) : Reader (List Doc) := do
  if ← word? "where" then
    ensure !(← sees seesParameters)
    return (← separated "," seesConditionEnd (condition r)).1
  else return []

/-- The layout of conditions on lines of their own; after them comes a semicolon or a body. -/
def tall (semicolon : Bool) (conditions : List Doc) : Doc :=
  if conditions.isEmpty then Doc.word (if semicolon then ";" else " ")
  else
    let after := fun isLast =>
      if isLast && semicolon then Doc.word ";" else Doc.word "," ++ Doc.newline
    Doc.newline ++ Doc.dedent ++ Doc.word "where" ++ Doc.newline ++
      Doc.sequence after conditions ++ if semicolon then [] else Doc.dedent

/-- The layout of conditions on one line if they fit. -/
def flat (semicolon : Bool) (conditions : List Doc) : Doc :=
  if conditions.isEmpty then Doc.word (if semicolon then ";" else " ")
  else
    let after := fun isLast =>
      if isLast && semicolon then Doc.word ";" else Doc.commaOrSpace isLast
    Doc.space ++ Doc.dedent ++ Doc.word "where" ++ Doc.space ++
      Doc.sequence after conditions ++ if semicolon then [] else Doc.dedent

end Generics

end RowBindings.Source
