import RowBindings.Source.Statement

/-!
# Declarations

Constants, functions, data types, traits and their implementations, modules, imports, and
invocations in their place. Each is laid out with the line end after it.
-/

namespace RowBindings.Source

open Reader

namespace Item

/-! ## Parts of declarations -/

/-- Reads from where a declaration is visible. -/
def visibility : Reader Doc := do
  if !(← word? "pub") then return []
  match ← ahead with
  | .group .round inner :: rest =>
    match inner with
    | [.word w] =>
      if ["crate", "self", "super"].contains w then
        set rest
        return Doc.word ("pub(" ++ w ++ ") ")
      else return Doc.word "pub "
    | .word "in" :: path =>
      match Path.bare path with
      | some (p, []) =>
        set rest
        let isRoot := p.only?.any ["crate", "self", "super"].contains
        return Doc.word "pub(" ++ (if isRoot then [] else Doc.word "in ") ++ p.layout ++
          Doc.word ") "
      | _ => failure
    | _ => return Doc.word "pub "
  | _ => return Doc.word "pub "

/-- A declaration in its box. -/
def boxed (offset : Int) (attributes body : Doc) : Doc :=
  attributes ++ Doc.cbox offset body ++ Doc.newline

/-- What stands in braces, each part on lines of its own. -/
def inBraces (body : Doc) : Doc :=
  Doc.word "\x7b" ++ Doc.newlineIfFollowed ++ body ++ Doc.dedent

/-- A declaration with a body in braces; the closing one stands outside of its box. -/
def withBody (attributes start body : Doc) : Doc :=
  attributes ++ Doc.cbox Doc.indentation (start ++ inBraces body) ++ Doc.word "\x7d" ++ Doc.newline

/-- Reads a word, and gives its layout with a blank after it if it was there. -/
def wordBefore (w : String) : Reader Doc := do
  if ← word? w then return Doc.word (w ++ " ") else return []

/-- Reads a type after a colon. -/
def typed (r : Readers) : Reader Doc := do
  mark ":"
  return Doc.word ": " ++ (← r.type true).layout

/-- A value after the sign of equality. -/
def equal (value : Doc) : Doc := Doc.word " = " ++ Doc.noBreak ++ value

/-! ## Functions -/

/-- Reads what a method is called on. -/
def receiver (r : Readers) : Reader Doc := do
  let isReference ← mark? "&"
  let lifetime ← if isReference then when? Ahead.lifetime lifetime else pure none
  let isMutable ← word? "mut"
  word "self"
  let type ← if !isReference && (← sees (Ahead.mark ":")) then typed r else pure []
  let start := (if isReference then "&" else "") ++ (lifetime.map (· ++ " ")).getD "" ++
    (if isMutable then "mut " else "")
  return Doc.word (start ++ "self") ++ type

/-- An argument of a function. -/
inductive Argument
  | receiver (layout : Doc)
  | typed (layout : Doc)
  /-- The dots for any number of arguments. -/
  | open_ (layout : Doc)

namespace Argument

/-- The layout of an argument. -/
def layout : Argument → Doc
  | receiver d | typed d | open_ d => d

/-- Whether only the last argument may be so. -/
def isOpen : Argument → Bool
  | open_ _ => true
  | _ => false

/-- Whether only the first argument may be so. -/
def isReceiver : Argument → Bool
  | receiver _ => true
  | _ => false

end Argument

/-- Reads an argument of a function. -/
def argument (r : Readers) : Reader Argument := do
  let attributes ← Attribute.outer r
  if ← mark? "..." then return .open_ (attributes ++ Doc.word "...")
  (do return .receiver (attributes ++ (← receiver r)))
  <|> (do
    let ts ← ahead
    if Ahead.name ts && Ahead.mark "<" (ts.drop 1) then
      return .typed (attributes ++ Doc.word "_: " ++ (← r.type true).layout)
    else
      let p ← r.pattern
      mark ":"
      let start := attributes ++ p.layout ++ Doc.word ": "
      if ← mark? "..." then return .open_ (start ++ Doc.word "...")
      else return .typed (start ++ (← r.type true).layout))

/-- The head of a function. -/
structure Signature where
  layout : Doc
  conditions : List Doc

/-- Whether the head of a function is ahead. -/
def seesSignature (ts : List Tree) : Bool :=
  let dropWord (w : String) (ts : List Tree) : List Tree :=
    if Ahead.word w ts then ts.drop 1 else ts
  let ts := dropWord "unsafe" (dropWord "async" (dropWord "const" ts))
  let ts := match ts with
    | .word "extern" :: .literal _ :: rest => rest
    | .word "extern" :: rest => rest
    | ts => ts
  Ahead.word "fn" ts

/-- Reads the head of a function. -/
def signature (r : Readers) : Reader Signature := do
  let kinds ← ["const", "async", "unsafe"].mapM wordBefore
  let convention ← TypePiece.convention?
  word "fn"
  let name ← name
  let parameters ← Generics.read r
  let arguments ← inGroup .round (commaList (argument r))
  ensure (arguments.dropLast.all (!·.isOpen) && (arguments.drop 1).all (!·.isReceiver))
  let isOpen := arguments.getLast?.any (·.isOpen)
  let trailing (isLast : Bool) : Doc := if isLast && isOpen then Doc.zero else Doc.comma isLast
  let output ← Path.result r true
  let conditions ← Generics.conditions r
  return {
    layout := kinds.flatten ++ convention ++ Doc.word "fn " ++ Doc.word name ++ parameters ++
      Doc.word "(" ++ Doc.noBreak ++
      Doc.cbox 0
        (Doc.zero ++ Doc.sequence trailing (arguments.map (·.layout)) ++ Doc.dedent) ++
      Doc.word ")" ++ Doc.cbox (-Doc.indentation) (Path.resultLayout output)
    conditions }

/-- Reads a function after what its declaration starts with. -/
def function (r : Readers) (attributes start : Doc) : Reader Doc := do
  let s ← signature r
  let (inner, b) ← r.block
  return withBody attributes (start ++ s.layout ++ Generics.tall false s.conditions)
    (inner ++ b.lines)

/-- Reads the head of a function and a semicolon. -/
def functionHead (r : Readers) (attributes start : Doc) : Reader Doc := do
  let s ← signature r
  mark ";"
  return boxed Doc.indentation attributes (start ++ s.layout ++ Generics.tall true s.conditions)

/-! ## Data -/

/-- Reads a field with a name. -/
def namedField (r : Readers) : Reader Doc := do
  let attributes ← Attribute.outer r
  let visibility ← visibility
  let name ← nameOr ["_"]
  return attributes ++ visibility ++ Doc.word name ++ (← typed r)

/-- Reads a field without a name. -/
def plainField (r : Readers) : Reader Doc := do
  let attributes ← Attribute.outer r
  let visibility ← visibility
  return attributes ++ visibility ++ (← r.type true).layout

/-- The layout of fields without names. -/
def plainFields (fields : List Doc) : Doc :=
  Doc.word "(" ++ Doc.zero ++ Doc.sequence Doc.comma fields ++ Doc.dedent ++ Doc.word ")"

/-- Lines with a comma at the end of each. -/
def lines (all : List Doc) : Doc :=
  (all.map fun d => d ++ Doc.word "," ++ Doc.newline).flatten

/-- Reads a structure or union after its word. -/
def record (r : Readers) (attributes start : Doc) (namedOnly : Bool) : Reader Doc := do
  let name ← name
  let start := start ++ Doc.word name ++ (← Generics.read r)
  let conditions ← Generics.conditions r
  if ← sees (Ahead.group .curly) then
    let fields ← inGroup .curly (commaList (namedField r))
    return withBody attributes (start ++ Generics.tall false conditions) (lines fields)
  else
    ensure !namedOnly
    if conditions.isEmpty && (← sees (Ahead.group .round)) then
      let fields ← inGroup .round (commaList (plainField r))
      let conditions ← Generics.conditions r
      mark ";"
      return boxed Doc.indentation attributes
        (start ++ plainFields fields ++ Generics.tall true conditions)
    else
      mark ";"
      return boxed Doc.indentation attributes (start ++ Generics.tall true conditions)

/-- Reads a variant of an enumeration. -/
def variant (r : Readers) : Reader Doc := do
  let attributes ← Attribute.outer r
  discard visibility
  let name ← name
  let fields ←
    if ← sees (Ahead.group .curly) then do
      let fields ← inGroup .curly (commaList (namedField r))
      pure (Doc.word " " ++ Doc.word "\x7b" ++
        Doc.cbox Doc.indentation
          (Doc.space ++ Doc.sequence Doc.commaOrSpace fields ++ Doc.dedent) ++
        Doc.word "\x7d")
    else if ← sees (Ahead.group .round) then do
      let fields ← inGroup .round (commaList (plainField r))
      pure (Doc.cbox Doc.indentation (plainFields fields))
    else pure []
  let value ← if ← mark? "=" then do
      pure (Doc.word " = " ++ (← r.expression true).layout)
    else pure []
  return attributes ++ Doc.word name ++ fields ++ value

/-- Reads an enumeration after its word. -/
def enumeration (r : Readers) (attributes start : Doc) : Reader Doc := do
  let name ← name
  let start := start ++ Doc.word name ++ (← Generics.read r)
  let conditions ← Generics.conditions r
  let variants ← inGroup .curly (commaList (variant r))
  return withBody attributes (start ++ Generics.tall false conditions) (lines variants)

/-! ## Values and types -/

/-- Reads a constant after its word. Its value may lack in a trait. -/
def constant (r : Readers) (attributes start : Doc) (needsValue : Bool) : Reader Doc := do
  let name ← nameOr ["_"]
  let type ← typed r
  let value ←
    if needsValue || (← sees (Ahead.mark "=")) then do
      mark "="
      pure (equal (← r.expression true).layout)
    else pure []
  mark ";"
  return boxed 0 attributes (start ++ Doc.word name ++ type ++ value ++ Doc.word ";")

/-- Reads a static value after its word. It has none in a foreign block. -/
def static_ (r : Readers) (attributes start : Doc) (hasValue : Bool) : Reader Doc := do
  let mutability ← wordBefore "mut"
  let name ← name
  let type ← typed r
  let value ←
    if hasValue then do
      mark "="
      pure (equal (← r.expression true).layout)
    else pure []
  mark ";"
  return boxed 0 attributes
    (start ++ mutability ++ Doc.word name ++ type ++ value ++ Doc.word ";")

/-- Reads a name for a type after its word. -/
def synonym (r : Readers) (attributes start : Doc) : Reader Doc := do
  let name ← name
  let parameters ← Generics.read r
  let conditions ← Generics.conditions r
  mark "="
  let type ← r.type true
  mark ";"
  return boxed Doc.indentation attributes
    (start ++ Doc.word name ++ parameters ++ Generics.flat false conditions ++ Doc.word "= " ++
      Doc.noBreak ++ Doc.ibox (-Doc.indentation) type.layout ++ Doc.word ";")

/-- Reads a type of a trait or of its implementation, after its word. -/
def associatedType (r : Readers) (attributes start : Doc) (isDefinition : Bool) : Reader Doc := do
  let name ← name
  let parameters ← Generics.read r
  let bounds ←
    if isDefinition then pure []
    else if ← mark? ":" then do
      let stop := fun ts => Ahead.word "where" ts || Ahead.mark "=" ts || Ahead.mark ";" ts
      pure (← separated "+" stop r.bound).1
    else pure []
  let value ←
    if isDefinition || (← sees (Ahead.mark "=")) then do
      mark "="
      pure (equal (Doc.ibox (-Doc.indentation) (← r.type true).layout))
    else pure []
  let conditions ← Generics.conditions r
  mark ";"
  return boxed Doc.indentation attributes
    (start ++ Doc.word name ++ parameters ++ Generics.boundsLayout (Doc.word ": ") bounds ++
      value ++ Generics.flat true conditions)

/-! ## Invocations -/

/-- Reads an invocation in the place of a declaration, which may give a name to something if that
is allowed. -/
def invocation (attributes : Doc) (mayName : Bool) : Reader Doc := do
  ensure !(← sees (Ahead.word "Self"))
  let path ← Path.bare
  mark "!"
  let seesName := fun ts => mayName && (Ahead.name ts || Ahead.word "try" ts)
  let name ← when? seesName anyWord
  let (b, inner) ← anyGroup
  if b != .curly then mark ";"
  match name, path.only? with
  | some n, some "macro_rules" =>
    match Invocation.definition n inner with
    | some d => return attributes ++ d ++ Doc.newline
    | none => failure
  | _, _ => return attributes ++ Invocation.layout path.layout name b inner true ++ Doc.newline

/-! ## Members -/

/-- Reads what a trait asks for. -/
def traitMember (r : Readers) : Reader Doc := do
  let attributes ← Attribute.outer r
  let ts ← ahead
  if seesSignature ts then
    (functionHead r attributes []) <|> (function r attributes [])
  else if ← word? "const" then constant r attributes (Doc.word "const ") false
  else if ← word? "type" then associatedType r attributes (Doc.word "type ") false
  else invocation attributes false

/-- Reads what an implementation has. -/
def implementationMember (r : Readers) : Reader Doc := do
  let attributes ← Attribute.outer r
  let visibility ← visibility
  let isDefault ← sees fun ts => Ahead.word "default" ts && !Ahead.mark "!" (ts.drop 1)
  let start := visibility ++ (← if isDefault then wordBefore "default" else pure [])
  if ← sees seesSignature then function r attributes start
  else if ← word? "const" then constant r attributes (start ++ Doc.word "const ") true
  else if ← word? "type" then associatedType r attributes (start ++ Doc.word "type ") true
  else
    ensure start.isEmpty
    invocation attributes false

/-- Reads what a foreign block declares. The conditions on a type are left out. -/
def foreignMember (r : Readers) : Reader Doc := do
  let attributes ← Attribute.outer r
  let visibility ← visibility
  if ← sees seesSignature then functionHead r attributes visibility
  else if ← word? "static" then static_ r attributes (visibility ++ Doc.word "static ") false
  else if ← word? "type" then
    let name ← name
    let parameters ← Generics.read r
    discard (Generics.conditions r)
    mark ";"
    return boxed 0 attributes
      (visibility ++ Doc.word "type " ++ Doc.word name ++ parameters ++ Doc.word ";")
  else
    ensure visibility.isEmpty
    invocation attributes false

/-- Reads members in braces, with the attributes inside of them. -/
def members (r : Readers) (member : Reader Doc) : Reader Doc :=
  inGroup .curly do
    let attributes ← Attribute.inner r
    return attributes ++ (← toEnd member).flatten

/-! ## Traits, implementations, modules -/

/-- Reads a trait, or another name for bounds, after its word. -/
def trait_ (r : Readers) (attributes start : Doc) (mayAlias : Bool) : Reader Doc := do
  let name ← name
  let start := start ++ Doc.word "trait " ++ Doc.word name ++ (← Generics.read r)
  if ← if mayAlias then mark? "=" else pure false then
    let stop := fun ts => Ahead.word "where" ts || Ahead.mark ";" ts
    let (bounds, _) ← separated "+" stop r.bound
    let conditions ← Generics.conditions r
    mark ";"
    return boxed Doc.indentation attributes
      (start ++ equal (Generics.boundsLayout [] bounds) ++ Generics.tall true conditions)
  else
    let stop := fun ts => Ahead.word "where" ts || Ahead.group .curly ts
    let bounds ← if ← mark? ":" then do pure (← separated "+" stop r.bound).1 else pure []
    let bounds := if bounds.isEmpty then [] else Doc.word ": " ++ TypePiece.sum bounds
    let conditions ← Generics.conditions r
    return withBody attributes (start ++ bounds ++ Generics.tall false conditions)
      (← members r (traitMember r))

/-- Reads an implementation. -/
def implementation (r : Readers) (attributes : Doc) : Reader Doc := do
  let start := (← wordBefore "default") ++ (← wordBefore "unsafe")
  word "impl"
  let parameters ← if ← sees Generics.seesParameters then Generics.read r else pure []
  let isNegative ←
    if ← sees fun ts => Ahead.mark "!" ts && !Ahead.group .curly (ts.drop 1) then mark? "!"
    else pure false
  let first ← r.type true
  let subject ←
    if ← word? "for" then do
      let trait? := first.path?.filter (!·.isQualified)
      ensure trait?.isSome
      let type ← r.type true
      pure ((if isNegative then Doc.word "!" else []) ++ first.layout ++ Doc.space ++
        Doc.word "for " ++ type.layout)
    else do
      ensure !isNegative
      pure first.layout
  let conditions ← Generics.conditions r
  let body ← members r (implementationMember r)
  let head := Doc.ibox (-Doc.indentation)
    (Doc.cbox Doc.indentation (start ++ Doc.word "impl" ++ parameters) ++ Doc.word " " ++ subject)
  return withBody attributes (head ++ Generics.tall false conditions) body

/-- Reads a block of foreign declarations. -/
def foreign (r : Readers) (attributes : Doc) : Reader Doc := do
  let start := (← wordBefore "unsafe") ++ (← TypePiece.convention)
  return withBody attributes start (← members r (foreignMember r))

/-- Reads a module after its word. -/
def module_ (r : Readers) (attributes start : Doc) : Reader Doc := do
  let name ← nameOr ["try"]
  let start := start ++ Doc.word "mod " ++ Doc.word name
  if ← mark? ";" then return boxed Doc.indentation attributes (start ++ Doc.word ";")
  else
    let body ← members r do r.item (← Attribute.outer r)
    return withBody attributes (start ++ Doc.word " ") body

/-! ## Imports -/

/-- The tree of an import. -/
structure Import where
  layout : Doc
  /-- It ends in a group in braces. -/
  endsInGroup : Bool := false

/-- Reads a name for what is imported, which may be none. -/
def newName : Reader String := do
  let w ← anyWord
  ensure (Tree.isName w || w == "_")
  return w

/-- Reads the tree of an import. -/
def importTree : Nat → Reader Import
  | 0 => failure
  | fuel + 1 => do
    let ts ← ahead
    if Ahead.name ts || Ahead.anyOf ["self", "super", "crate", "try"] ts then
      let first ← anyWord
      if ← mark? "::" then
        let rest ← importTree fuel
        return { rest with layout := Doc.word first ++ Doc.word "::" ++ rest.layout }
      else if ← word? "as" then
        return { layout := Doc.word first ++ Doc.word " as " ++ Doc.word (← newName) }
      else return { layout := Doc.word first }
    else if ← mark? "*" then return { layout := Doc.word "*" }
    else
      let trees ← inGroup .curly (commaList (importTree fuel))
      return {
        layout := Doc.word "\x7b" ++
          Doc.cbox Doc.indentation
            (Doc.zero ++ Doc.ibox 0 (row trees) ++ Doc.comma true ++ Doc.dedent) ++
          Doc.word "\x7d"
        endsInGroup := true }
where
  row : List Import → Doc
    | [] => []
    | [t] => t.layout
    | t :: rest =>
      t.layout ++ Doc.word "," ++ (if t.endsInGroup then Doc.newline else Doc.space) ++ row rest

/-- Reads an import after its word. -/
def import_ (attributes start : Doc) : Reader Doc := do
  let leading ← mark? "::"
  let tree ← importTree (Tree.sizeAll (← ahead) + 1)
  mark ";"
  return attributes ++ start ++ Doc.word "use " ++ (if leading then Doc.word "::" else []) ++
    tree.layout ++ Doc.word ";" ++ Doc.newline

/-- Reads an imported package after its words. -/
def externalPackage (attributes start : Doc) : Reader Doc := do
  let name ← nameOr ["self"]
  let rename ← if ← word? "as" then do pure (" as " ++ (← newName)) else pure ""
  mark ";"
  return attributes ++ start ++ Doc.word ("extern crate " ++ name ++ rename) ++ Doc.word ";" ++
    Doc.newline

/-! ## Declarations -/

/-- Reads a declaration after its attributes. -/
def read (r : Readers) (attributes : Doc) : Reader Doc := do
  let visibility ← visibility
  let ts ← ahead
  let next := ts.drop 1
  let hidden := ensure visibility.isEmpty
  if seesSignature ts then function r attributes visibility
  else if Ahead.word "extern" ts then
    if Ahead.word "crate" next then
      word "extern"
      word "crate"
      externalPackage attributes visibility
    else
      hidden
      foreign r attributes
  else if ← word? "use" then import_ attributes visibility
  else if ← word? "static" then static_ r attributes (visibility ++ Doc.word "static ") true
  else if ← word? "const" then constant r attributes (visibility ++ Doc.word "const ") true
  else if Ahead.word "unsafe" ts then
    if Ahead.word "trait" next || (Ahead.word "auto" next && Ahead.word "trait" (next.drop 1)) then
      word "unsafe"
      let auto ← wordBefore "auto"
      word "trait"
      trait_ r attributes (visibility ++ Doc.word "unsafe " ++ auto) false
    else if Ahead.word "impl" next then
      hidden
      implementation r attributes
    else if Ahead.word "extern" next then
      hidden
      foreign r attributes
    else
      word "unsafe"
      word "mod"
      module_ r attributes (visibility ++ Doc.word "unsafe ")
  else if ← word? "mod" then module_ r attributes visibility
  else if ← word? "type" then synonym r attributes (visibility ++ Doc.word "type ")
  else if ← word? "struct" then record r attributes (visibility ++ Doc.word "struct ") false
  else if ← word? "enum" then enumeration r attributes (visibility ++ Doc.word "enum ")
  else if Ahead.word "union" ts && Ahead.name next then
    word "union"
    record r attributes (visibility ++ Doc.word "union ") true
  else if ← word? "trait" then trait_ r attributes visibility true
  else if Ahead.word "auto" ts && Ahead.word "trait" next then
    word "auto"
    word "trait"
    trait_ r attributes (visibility ++ Doc.word "auto ") false
  else if Ahead.word "impl" ts || (Ahead.word "default" ts && !Ahead.mark "!" next) then
    hidden
    implementation r attributes
  else
    hidden
    invocation attributes true

end Item

end RowBindings.Source
