import RowBindings.Source.Pattern

/-!
# Expressions without operators

Literals, paths, calls and their chains, blocks and what controls them. Each reader gives back the
layouts that the phrases around it choose from.
-/

namespace RowBindings.Source

open Reader

namespace Expression

/-! ## Chains -/

/-- What is called or has a field, and a place behind it unless it is short and starts a line. -/
def head (isFirst : Bool) (e : Expression) : Doc :=
  (if isFirst then e.asFirstHead else e.asHead) ++ (if isFirst && e.isShort then [] else Doc.beforePoint)

/-- A further link of a chain. The link is told whether it moves back its arguments, which it does
behind a short name at the start of a line. -/
def andLink (e : Expression) (link : Bool → Doc) : Expression where
  layout := Doc.cbox Doc.indentation (e.head false ++ link false)
  atLineStart := Doc.cbox Doc.indentation (e.head true ++ link e.isShort)
  asHead := e.head false ++ link false
  asFirstHead := e.head true ++ link false
  isParseable := e.isParseable
  wraps := true

/-- The layout of arguments. -/
def arguments : List Expression → Doc
  | [e] =>
    if e.isBlockLike then e.layout
    else Doc.cbox Doc.indentation (Doc.zero ++ e.layout ++ Doc.comma true ++ Doc.dedent)
  | es =>
    Doc.cbox Doc.indentation
      (Doc.zero ++ Doc.sequence Doc.comma (es.map (·.layout)) ++ Doc.dedent)

/-- A call. -/
def call (f : Expression) (es : List Expression) : Expression :=
  let after := Doc.word "(" ++ arguments es ++ Doc.word ")"
  { layout := f.layout ++ after
    asHead := f.asHead ++ after
    isClosureBody := true
    isParseable := f.needsSemicolon && f.isParseable
    wraps := f.wraps }

/-- An expression with an index or a question mark after it. -/
def andSuffix (e : Expression) (after : Doc) : Expression where
  layout := e.layout ++ after
  atLineStart := e.atLineStart ++ after
  asHead := e.asHead ++ after
  asFirstHead := e.asFirstHead ++ after

/-- An element at an index. -/
def index (e i : Expression) : Expression :=
  { e.andSuffix (Doc.word "[" ++ i.layout ++ Doc.word "]") with
    isParseable := e.needsSemicolon && e.isParseable
    wraps := true }

/-- The success of what may fail. -/
def success (e : Expression) : Expression :=
  { e.andSuffix (Doc.word "?") with isParseable := e.isParseable, wraps := e.wraps }

/-- A field, or what is awaited. -/
def field (e : Expression) (name : String) : Expression :=
  e.andLink fun _ => Doc.word ("." ++ name)

/-- A call of a method. -/
def method (e : Expression) (name : String) (types : Doc) (es : List Expression) : Expression :=
  e.andLink fun moved =>
    Doc.word "." ++ Doc.word name ++ types ++
      Doc.cbox (if moved then -Doc.indentation else 0)
        (Doc.word "(" ++ arguments es ++ Doc.word ")")

/-- Whether the text of a literal is a whole number, which has no point and no exponent. -/
def isWhole (text : String) : Bool :=
  match text.toList with
  | '0' :: 'x' :: _ | '0' :: 'o' :: _ | '0' :: 'b' :: _ => true
  | c :: rest =>
    c.isDigit &&
      match rest.dropWhile fun c => c.isDigit || c == '_' with
      | '.' :: _ => false
      | 'e' :: rest | 'E' :: rest =>
        match rest.dropWhile (· == '_') with
        | c :: _ => !(c.isDigit || c == '+' || c == '-')
        | [] => true
      | _ => true
  | [] => false

/-- A literal. -/
def ofLiteral (text : String) : Expression where
  layout := Doc.word text
  isSimple :=
    isWhole text || text == "true" || text == "false" ||
      "'".toList.isPrefixOf text.toList || "b'".toList.isPrefixOf text.toList

/-- Reads type arguments of a method, if a double colon is ahead. -/
def methodTypes (r : Readers) : Reader Doc := do
  if ← mark? "::" then
    let types ← Path.arguments r
    return if types.isEmpty then [] else Doc.word "::" ++ types
  else return []

/-- Reads the name of what follows a point. -/
def namedMember (r : Readers) (e : Expression) : Reader Expression := do
  if ← word? "await" then return e.field "await"
  else
    let name ← name
    let seesTypes ← sees (Ahead.mark "::")
    let types ← methodTypes r
    if seesTypes || (← sees (Ahead.group .round)) then
      return e.method name types (← inGroup .round (commaList (r.expression true)))
    else return e.field name

/-- Reads what follows a point. A literal with a point holds the numbers of two fields, or the
number of one and the point before the next. -/
def member (r : Readers) (e : Expression) : Reader Expression := do
  let fields (e : Expression) (parts : List String) : Reader Expression := do
    match parts.mapM PatternPiece.fieldNumber? with
    | some numbers => return numbers.foldl field e
    | none => failure
  match ← ahead with
  | .literal text :: rest =>
    set rest
    let parts := text.splitOn "."
    if parts.length > 1 && parts.getLast? == some "" then
      let e ← fields e parts.dropLast
      match ← ahead with
      | .literal text :: rest => set rest; fields e [text]
      | _ => namedMember r e
    else fields e parts
  | _ => namedMember r e

/-- Whether a single point is ahead. -/
def seesPoint (ts : List Tree) : Bool := Ahead.mark "." ts && !Ahead.mark ".." ts

/-- Reads calls, indices, fields and question marks. -/
def trailers (r : Readers) (e : Expression) : Reader Expression := do
  go ((← ahead).length + 1) e
where
  go : Nat → Expression → Reader Expression
    | 0, _ => failure
    | fuel + 1, e => do
      let ts ← ahead
      if Ahead.group .round ts then
        go fuel (e.call (← inGroup .round (commaList (r.expression true))))
      else if seesPoint ts && !e.isRange then
        mark "."
        go fuel (← member r e)
      else if Ahead.group .square ts then
        go fuel (e.index (← inGroup .square (r.expression true)))
      else if Ahead.mark "?" ts && !e.isRange then
        mark "?"
        go fuel e.success
      else return e

/-! ## Collections -/

/-- Reads what stands in parentheses: nothing, an expression, or several. -/
def tuple (r : Readers) : Reader Expression := do
  let (es, trailing) ← inGroup .round (separated "," (·.isEmpty) (r.expression true))
  match es with
  | [] =>
    return {
      layout := Doc.bracketed "(" ")" []
      asArm? := some
        (Doc.word " " ++ Doc.word "\x7b" ++ Doc.noBreak ++
          Doc.cbox Doc.indentation (Doc.newlineIfFollowed ++ Doc.dedent) ++ Doc.word "\x7d")
      isBlockLike := true }
  | [e] =>
    if trailing then
      return {
        layout := Doc.word "(" ++
          Doc.cbox Doc.indentation
            (Doc.zero ++ e.layout ++ Doc.word "," ++ Doc.zero ++ Doc.dedent) ++ Doc.word ")"
        isBlockLike := true }
    else return { layout := Doc.word "(" ++ e.layout ++ Doc.word ")", wraps := e.wraps }
  | _ => return { layout := Doc.bracketed "(" ")" (es.map (·.layout)), isBlockLike := true }

/-- The layout of elements in square brackets: several on a line if all are simple. -/
def array (es : List Expression) : Doc :=
  if es.isEmpty then Doc.word "[]"
  else if es.all (·.isSimple) then
    Doc.cbox Doc.indentation
      (Doc.word "[" ++ Doc.zero ++
        Doc.ibox 0 (Doc.separated (Doc.word "," ++ Doc.space) (es.map (·.layout))) ++
        Doc.comma true ++ Doc.dedent ++ Doc.word "]")
  else Doc.bracketed "[" "]" (es.map (·.layout))

/-- Reads elements in square brackets, or an element and how often it is repeated. -/
def elements (r : Readers) : Reader Expression := do
  inGroup .square do
    if (← ahead).isEmpty then return { layout := array [], isBlockLike := true }
    let first ← r.expression true
    if ← mark? ";" then
      let count ← r.expression true
      return { layout := Doc.word "[" ++ first.layout ++ Doc.word "; " ++ count.layout ++
        Doc.word "]" }
    else
      let others ← if ← mark? "," then commaList (r.expression true) else pure []
      return { layout := array (first :: others), isBlockLike := true }

/-- Reads the fields of a structure, and what gives the rest. Two dots with nothing after them are
left out. -/
def fields (r : Readers) : Reader (List Doc × Option Doc) := do
  go ((← ahead).length + 1)
where
  one : Reader Doc := do
    let attributes ← Attribute.outer r
    let (name, isNamed) ← PatternPiece.fieldName
    if !isNamed || (← sees (Ahead.mark ":")) then
      mark ":"
      let value ← r.expression true
      return attributes ++ Doc.word name ++ Doc.word ": " ++ Doc.ibox 0 value.layout
    else return attributes ++ Doc.word name
  go : Nat → Reader (List Doc × Option Doc)
    | 0 => failure
    | fuel + 1 => do
      if (← ahead).isEmpty then return ([], none)
      else if ← mark? ".." then
        if (← ahead).isEmpty then return ([], none)
        else
          let base ← r.expression true
          return ([], some (Doc.word ".." ++ base.layout ++ Doc.space))
      else
        let f ← one
        if ← mark? "," then
          let (others, rest) ← go fuel
          return (f :: others, rest)
        else return ([f], none)

/-- The width up to which the literal of a structure stays on one line. -/
def recordWidth : Nat := 34

/-- Reads the literal of a structure after its path. -/
def record (r : Readers) (path : Doc) : Reader Expression := do
  let (fields, rest) ← inGroup .curly (fields r)
  let after (isLast : Bool) : Doc := Doc.commaOrSpace (isLast && rest.isNone)
  let inside := Doc.ibox (-Doc.indentation) path ++ Doc.word " \x7b" ++ Doc.spaceIfFollowed ++
    Doc.sequence after fields ++ rest.getD [] ++ Doc.dedent
  return {
    layout := .box Doc.indentation true :: inside ++
      [.closeWithin recordWidth, .text "\x7d"]
    isBlockLike := true
    endsInBrace := true }

/-- Reads a path, an invocation or the literal of a structure. -/
def ofPath (r : Readers) (structures : Bool) : Reader Expression := do
  let p ← Path.read r true
  let ts ← ahead
  if !p.isQualified && Ahead.mark "!" ts && !Ahead.mark "!=" ts && p.isBare then
    mark "!"
    let (b, inner) ← anyGroup
    return {
      layout := Invocation.layout p.layout none b inner false
      invocation? := some b
      endsInBrace := b == .curly }
  else if structures && Ahead.group .curly ts then record r p.layout
  else return {
    layout := p.layout
    isShort := p.only?.any fun name => name.utf8ByteSize ≤ Doc.indentation.toNat }

/-! ## Blocks -/

/-- A block with a word before it. -/
def afterWord (w : String) (attributes : Doc) (b : Block) (isOpenEnded : Bool) : Expression where
  layout := Doc.word w ++ Doc.cbox Doc.indentation (b.small attributes)
  isBlockLike := attributes.isEmpty
  isOpenEnded := isOpenEnded
  endsInBrace := true

/-- A block. As the body of a match arm it stands without its braces if it is one expression. -/
def ofBlock (label attributes : Doc) (b : Block) : Expression :=
  let braced := Doc.word " " ++ label ++ Doc.word "\x7b" ++ Doc.noBreak ++
    b.tall attributes ++ Doc.word "\x7d"
  { layout := label ++ Doc.cbox Doc.indentation (b.small attributes)
    asArm? := some <| match b.tail? with
      | some e => if label.isEmpty && attributes.isEmpty then e.asArm else braced
      | none => braced
    asArmAfterAttributes? := some braced
    isBlockLike := attributes.isEmpty
    isOpenEnded := false
    endsInBrace := true }

/-- A phrase that controls a block. -/
def control (layout : Doc) (dropsSemicolon : Bool) : Expression where
  layout := layout
  isOpenEnded := false
  dropsSemicolon := dropsSemicolon
  endsInBrace := true

/-- Reads a block with a word before it. -/
def blockAfter (r : Readers) (w : String) : Reader Expression := do
  let (attributes, b) ← r.block
  return afterWord w attributes b false

/-- Reads a block with a word before it that has no attributes inside. -/
def plainBlockAfter (r : Readers) (w : String) (isOpenEnded : Bool) : Reader Expression := do
  return afterWord w [] (← r.plainBlock) isOpenEnded

/-- Reads the condition and the blocks of a choice, after its first word. -/
def choice (r : Readers) : Reader Expression := do
  let first ← r.expression false
  let then_ ← r.plainBlock
  if ← word? "else" then
    let (others, isClosed) ← go ((← ahead).length + 1)
    return control
      (Doc.cbox Doc.indentation
        (opening first ++ then_.small [] ++ others)) !isClosed
  else
    let body :=
      if then_.isEmpty then Doc.word "\x7b\x7d"
      else Doc.word "\x7b" ++ Doc.newline ++ then_.lines ++ Doc.dedent ++ Doc.word "\x7d"
    return control (Doc.cbox Doc.indentation (opening first ++ body)) true
where
  opening (condition : Expression) : Doc :=
    Doc.word "if " ++ Doc.cbox (-Doc.indentation) condition.asCondition
  go : Nat → Reader (Doc × Bool)
    | 0 => failure
    | fuel + 1 => do
      if ← word? "if" then
        let condition ← r.expression false
        let then_ ← r.plainBlock
        let start := Doc.word " else " ++ opening condition ++ then_.small []
        if ← word? "else" then
          let (others, isClosed) ← go fuel
          return (start ++ others, isClosed)
        else return (start, false)
      else
        let b ← r.plainBlock
        return (Doc.word " else " ++ b.small [], true)

/-- The body of a loop. -/
def loopBody (attributes : Doc) (b : Block) : Doc :=
  Doc.word "\x7b" ++ Doc.noBreak ++ b.tall attributes ++ Doc.word "\x7d"

/-- Reads a loop after its label. -/
def loop (r : Readers) (label : Doc) : Reader Expression := do
  if ← word? "while" then
    let condition ← r.expression false
    let (attributes, b) ← r.block
    return control (label ++ Doc.word "while " ++ condition.asCondition ++ loopBody attributes b)
      true
  else if ← word? "for" then
    let p ← PatternPiece.alternatives r
    word "in"
    let range ← r.expression false
    let (attributes, b) ← r.block
    return control
      (Doc.ibox 0
        (label ++ Doc.word "for " ++ p.layout ++ Doc.word " in " ++ Doc.noBreak ++
          range.asCondition ++ loopBody attributes b)) true
  else
    word "loop"
    let (attributes, b) ← r.block
    return control (label ++ Doc.word "loop \x7b" ++ b.tall attributes ++ Doc.word "\x7d") false

/-- Reads a block or loop with a label. -/
def labelled (r : Readers) : Reader Expression := do
  let label := Doc.word ((← lifetime) ++ ": ")
  mark ":"
  if ← sees (Ahead.group .curly) then
    let (attributes, b) ← r.block
    return ofBlock label attributes b
  else loop r label

/-- Reads the arms of a match. After an arm that could go on there has to be a comma. -/
def arms (r : Readers) : Reader (List Doc) :=
  toEnd do
    let attributes ← Attribute.outer r
    let p ← PatternPiece.alternatives r
    let guard ← if ← word? "if" then do
        pure (Doc.word " if " ++ (← r.expression true).layout)
      else pure []
    mark "=>"
    let body ← r.clause []
    let found ← mark? ","
    ensure (found || !body.isOpenEnded || (← ahead).isEmpty)
    return attributes ++ Doc.ibox 0 (p.layout ++ guard ++ Doc.word " =>" ++ body.asArm) ++
      Doc.newline

/-- Reads a match after its first word. -/
def choiceByPattern (r : Readers) : Reader Expression := do
  let subject ← r.expression false
  let (attributes, arms) ← inGroup .curly do
    let attributes ← Attribute.inner r
    return (attributes, ← arms r)
  let layout := Doc.ibox 0
    (Doc.word "match " ++ subject.asCondition ++ Doc.word "\x7b" ++ Doc.noBreak ++
      Doc.cbox Doc.indentation
        (Doc.newlineIfFollowed ++ attributes ++ arms.flatten ++ Doc.dedent) ++
      Doc.word "\x7d")
  return { control layout false with isClosureBody := true }

/-! ## Closures -/

/-- Reads an argument of a closure. -/
def closureArgument (r : Readers) : Reader Doc := do
  let attributes ← Attribute.outer r
  let p ← r.pattern
  if ← mark? ":" then
    return attributes ++ p.layout ++ Doc.word ": " ++ (← r.type true).layout
  else return attributes ++ p.layout

/-- Reads a closure. -/
def closure (r : Readers) (structures : Bool) : Reader Expression := do
  let lifetimes ← Generics.lifetimes r
  let kinds ← ["const", "static", "async", "move"].mapM fun w => do
    if ← word? w then return w ++ " " else return ""
  mark "|"
  let (arguments, _) ← separated "," (Ahead.mark "|") (closureArgument r)
  mark "|"
  let start := lifetimes ++ Doc.word (String.join kinds)
  let list := (if arguments.isEmpty then [] else Doc.zero) ++
    Doc.separated (Doc.word "," ++ Doc.space) arguments
  if ← mark? "->" then
    let output ← r.type true
    let b ← r.plainBlock
    let ending := if arguments.isEmpty then [] else Doc.comma true ++ Doc.dedent
    return {
      layout := Doc.ibox 0
        (start ++ Doc.cbox Doc.indentation (Doc.word "|" ++ list ++ ending ++ Doc.word "|") ++
          Doc.word " -> " ++ output.layout ++ Doc.word " " ++ Doc.noBreak ++
          Doc.cbox Doc.indentation (b.small []))
      isBlockLike := true
      endsInBrace := true }
  else
    let body ← r.expression structures
    let written := if body.isClosureBody then body.layout
      else Doc.braced body.addsSemicolon body.layout body.isParseable none
    return {
      layout := Doc.ibox 0
        (start ++
          Doc.cbox Doc.indentation (Doc.word "|" ++ list ++ Doc.word "|" ++ Doc.space ++ Doc.dedent) ++
          Doc.noBreak ++ written)
      isBlockLike := true
      endsInBrace := body.endsInBrace }

/-! ## Leaving -/

/-- Whether an expression is ahead. -/
def seesExpression (ts : List Tree) : Bool :=
  (Ahead.anyWord ts && !Ahead.word "as" ts) || Ahead.group .round ts || Ahead.group .square ts
    || Ahead.group .curly ts || Ahead.literal ts
    || (Ahead.mark "!" ts && !Ahead.mark "!=" ts)
    || (Ahead.mark "-" ts && !Ahead.mark "-=" ts && !Ahead.mark "->" ts)
    || (Ahead.mark "*" ts && !Ahead.mark "*=" ts)
    || (Ahead.mark "|" ts && !Ahead.mark "|=" ts)
    || (Ahead.mark "&" ts && !Ahead.mark "&=" ts)
    || Ahead.mark ".." ts
    || (Ahead.mark "<" ts && !Ahead.mark "<=" ts && !Ahead.mark "<<=" ts)
    || Ahead.mark "::" ts || Ahead.lifetime ts || Ahead.mark "#" ts

/-- What leaves a function or loop, with a value if there is one. -/
def leave (start : String) (value : Option Expression) : Expression where
  layout := Doc.word start ++ match value with
    | some e => Doc.word " " ++ e.layout
    | none => []
  addsSemicolon := true
  wraps := value.any (·.wraps)
  endsInBrace := value.any (·.endsInBrace)

/-- Reads the end of a loop, after its word. -/
def breakOff (r : Readers) (structures : Bool) : Reader Expression := do
  let label ← when? Ahead.lifetime lifetime
  ensure !(label.isSome && (← sees (Ahead.mark ":")))
  let ts ← ahead
  let value ← if seesExpression ts && (structures || !Ahead.group .curly ts) then do
      pure (some (← r.expression structures))
    else pure none
  return leave ("break" ++ (label.map (" " ++ ·)).getD "") value

/-- Reads what a function gives back, after its word. -/
def giveBack (r : Readers) (w : String) : Reader Expression := do
  return leave w (← when? seesExpression (r.expression true))

/-! ## Atoms -/

/-- Whether a closure is ahead. -/
def seesClosure (ts : List Tree) : Bool :=
  let next := ts.drop 1
  Ahead.mark "|" ts || Ahead.word "move" ts || (Ahead.word "for" ts && Generics.seesParameters next)
    || (Ahead.word "const" ts && !Ahead.group .curly next) || Ahead.word "static" ts
    || (Ahead.word "async" ts && (Ahead.mark "|" next || Ahead.word "move" next))

/-- Whether a block of a given word is ahead. -/
def seesBlockAfter (w : String) (ts : List Tree) : Bool :=
  Ahead.word w ts && Ahead.group .curly (ts.drop 1)

/-- Reads an expression that nothing can come between. Of ranges only those without a start are
not dealt with here. -/
def atom (r : Readers) (structures : Bool) : Reader Expression := do
  let ts ← ahead
  let next := ts.drop 1
  if Ahead.literal ts then return ofLiteral (← literal)
  else if seesBlockAfter "async" ts then
    word "async"
    plainBlockAfter r "async " true
  else if Ahead.word "async" ts && seesBlockAfter "move" next then
    word "async"
    word "move"
    plainBlockAfter r "async move " true
  else if seesBlockAfter "try" ts then
    word "try"
    plainBlockAfter r "try " false
  else if seesClosure ts then closure r structures
  else if Ahead.path ts || Ahead.mark "<" ts
      || (Ahead.word "try" ts && (Ahead.mark "!" next || Ahead.mark "::" next)) then
    ofPath r structures
  else if Ahead.group .round ts then tuple r
  else if ← word? "break" then breakOff r structures
  else if ← word? "continue" then
    let label ← when? Ahead.lifetime lifetime
    return leave ("continue" ++ (label.map (" " ++ ·)).getD "") none
  else if ← word? "return" then giveBack r "return"
  else if Ahead.group .square ts then elements r
  else if ← word? "if" then choice r
  else if Ahead.anyOf ["while", "for", "loop"] ts then loop r []
  else if ← word? "match" then choiceByPattern r
  else if ← word? "yield" then giveBack r "yield"
  else if ← word? "unsafe" then blockAfter r "unsafe "
  else if ← word? "const" then blockAfter r "const "
  else if Ahead.group .curly ts then
    let (attributes, b) ← r.block
    return ofBlock [] attributes b
  else if ← word? "_" then return { layout := Doc.word "_" }
  else if Ahead.lifetime ts then labelled r
  else failure

end Expression

end RowBindings.Source
