import RowBindings.Source.Piece

/-!
# Paths

Names joined by double colons, with arguments in angle brackets or, as the last thing in a type,
in parentheses. Where an expression may stand, the angle brackets need a double colon before them;
elsewhere they have none when written.
-/

namespace RowBindings.Source

open Reader

namespace Path

/-- The words that are parts of a path and have no arguments. -/
def rootWords : List String := ["super", "self", "crate", "try"]

/-- Reads a path without arguments. -/
def bare : Reader Path := do
  let leading ← mark? "::"
  let first ← nameOr Ahead.pathWords
  let others ← whileSeen (Ahead.mark "::") (do mark "::"; nameOr Ahead.pathWords)
  let text := String.intercalate "::" (first :: others)
  return {
    layout := Doc.word (if leading then "::" ++ text else text)
    only? := if leading || !others.isEmpty then none else some first
    isSingle := !leading && others.isEmpty }

/-- A group of statements in braces where a constant is expected. -/
def constantBlock (r : Readers) : Reader Doc := do
  let (attributes, b) ← r.block
  return Doc.cbox Doc.indentation (b.small attributes)

/-- A constant where a type could stand too. -/
def constant (r : Readers) : Reader Doc := do
  if ← sees Ahead.literal then return Doc.word (← literal) else constantBlock r

/-- Whether a constant is ahead. -/
def seesConstant (ts : List Tree) : Bool := Ahead.literal ts || Ahead.group .curly ts

/-- Reads an argument, and says whether it is a lifetime. -/
def argument (r : Readers) : Reader (Bool × Doc) := do
  let ts ← ahead
  if Ahead.lifetime ts && !Ahead.mark "+" (Ahead.skip ts) then
    return (true, Doc.word (← lifetime))
  else if seesConstant ts then return (false, ← constant r)
  else
    let t ← r.type true
    match t.path? with
    | some p =>
      if !p.isSingle then return (false, t.layout)
      else if ← mark? "=" then
        let value ← if ← sees seesConstant then constant r else do pure (← r.type true).layout
        return (false, p.layout ++ Doc.word " = " ++ value)
      else if ← mark? ":" then
        let stop := fun ts => Ahead.mark "," ts || Ahead.mark ">" ts
        let (bounds, _) ← separated "+" stop r.bound
        let between := Doc.space ++ Doc.word "+ "
        return (false, p.layout ++
          Doc.ibox Doc.indentation
            ((if bounds.isEmpty then [] else Doc.word ": ") ++ Doc.separated between bounds))
      else return (false, t.layout)
    | none => return (false, t.layout)

/-- Lifetimes first, the rest in order. -/
def lifetimesFirst (all : List (Bool × Doc)) : List Doc :=
  (all.filter (·.1)).map (·.2) ++ (all.filter (!·.1)).map (·.2)

/-- Reads arguments in angle brackets. Lifetimes are written first. -/
def arguments (r : Readers) : Reader Doc := do
  mark "<"
  let (arguments, _) ← separated "," (Ahead.mark ">") (argument r)
  mark ">"
  if arguments.isEmpty then return []
  return Doc.bracketed "<" ">" (lifetimesFirst arguments)

/-- Reads what follows an arrow, if one is ahead. -/
def result (r : Readers) (severalBounds : Bool) : Reader (Option TypePiece) := do
  if ← mark? "->" then return some (← r.type severalBounds) else return none

/-- The layout of what follows an arrow. -/
def resultLayout : Option TypePiece → Doc
  | some t => Doc.word " -> " ++ t.layout
  | none => []

/-- Reads arguments in parentheses and what follows an arrow after them. A path may go on if that
is nothing or stands in parentheses. -/
def functionArguments (r : Readers) : Reader (Doc × Bool) := do
  let inputs ← inGroup .round (commaList (r.type true))
  let output ← result r false
  let layout := Doc.cbox Doc.indentation
    (Doc.word "(" ++ Doc.zero ++ Doc.sequence Doc.comma (inputs.map (·.layout)) ++ Doc.dedent ++
      Doc.word ")" ++ resultLayout output)
  return (layout, output.all (·.isEnclosed))

/-- Whether arguments are ahead. -/
def seesArguments (inExpression : Bool) (ts : List Tree) : Bool :=
  (!inExpression && Ahead.mark "<" ts && !Ahead.mark "<=" ts && !Ahead.mark "<<=" ts)
    || (Ahead.mark "::" ts && Ahead.mark "<" (ts.drop 2))

/-- A part of a path, with whether it has arguments and whether they are more than brackets. -/
structure Part where
  name : String
  arguments : Doc := []
  isBare : Bool := true

/-- Reads a part. -/
def part (r : Readers) (inExpression : Bool) : Reader Part := do
  let ts ← ahead
  if Ahead.anyOf rootWords ts then return { name := ← anyWord }
  let name ← nameOr ["Self"]
  if seesArguments inExpression (← ahead) then
    discard (mark? "::")
    let arguments ← arguments r
    let arguments :=
      if inExpression && !arguments.isEmpty then Doc.word "::" ++ arguments else arguments
    return { name, arguments, isBare := false }
  else return { name }

/-- The layout of a part. -/
def Part.layout (p : Part) : Doc := Doc.word p.name ++ p.arguments

/-- A path that goes on with a part. -/
def andPart (p : Path) (q : Part) : Path where
  layout := p.layout ++ Doc.word "::" ++ q.layout
  isBare := p.isBare && q.isBare
  endsInArguments := !q.arguments.isEmpty
  isQualified := p.isQualified

/-- Reads the parts after the first, as long as no parenthesis follows the double colon. -/
def more (r : Readers) (inExpression : Bool) (p : Path) : Reader Path := do
  let goesOn := fun ts => Ahead.mark "::" ts && !Ahead.group .round (ts.drop 2)
  let parts ← whileSeen goesOn (do mark "::"; part r inExpression)
  return parts.foldl andPart p

/-- Reads a path that starts with a name. -/
def named (r : Readers) (inExpression : Bool) : Reader Path := do
  let leading ← mark? "::"
  let first ← part r inExpression
  more r inExpression {
    layout := (if leading then Doc.word "::" else []) ++ first.layout
    only? := if leading || !first.isBare then none else some first.name
    isBare := first.isBare
    isSingle := !leading
    endsInArguments := !first.arguments.isEmpty }

/-- Reads a path, which may start with a type and the trait to look it up in. -/
def read (r : Readers) (inExpression : Bool) : Reader Path := do
  if ← mark? "<" then
    let self ← r.type true
    let trait? ← if ← word? "as" then do pure (some (← named r false)) else pure none
    mark ">"
    mark "::"
    let first ← part r inExpression
    let owner := match trait? with
      | some t => Doc.word " as " ++ t.layout
      | none => []
    let start : Path := {
      layout := Doc.word "<" ++ self.layout ++ owner ++ Doc.word ">"
      isQualified := true }
    let goesOn := Ahead.mark "::"
    let parts ← whileSeen goesOn (do mark "::"; part r inExpression)
    return (first :: parts).foldl andPart start
  else named r inExpression

/-- Whether arguments in parentheses are ahead. -/
def seesFunctionArguments (ts : List Tree) : Bool :=
  Ahead.group .round ts || (Ahead.mark "::" ts && Ahead.group .round (ts.drop 2))

/-- A path with arguments in parentheses. -/
def andFunctionArguments (p : Path) (arguments : Doc) : Path where
  layout := p.layout ++ arguments
  isBare := false
  endsInArguments := true
  isQualified := p.isQualified

/-- Reads a path as it stands in a type. -/
def ofType (r : Readers) : Reader Path := do
  go ((← ahead).length + 1) (← read r false)
where
  go : Nat → Path → Reader Path
    | 0, _ => failure
    | fuel + 1, p => do
      if !p.endsInArguments && seesFunctionArguments (← ahead) then
        discard (mark? "::")
        let (arguments, goesOn) ← functionArguments r
        let p := p.andFunctionArguments arguments
        if goesOn then go fuel (← more r false p) else return p
      else return p

/-- Reads a path as it stands in a bound. -/
def ofBound (r : Readers) : Reader Path := do
  let p ← named r false
  if !p.endsInArguments && seesFunctionArguments (← ahead) then
    discard (mark? "::")
    return p.andFunctionArguments (← functionArguments r).1
  else return p

end Path

end RowBindings.Source
