import RowBindings.Source.Invocation
import RowBindings.Source.Lexer
import RowBindings.Source.Path

/-!
# Attributes

What stands in `#[…]` before a declaration or in `#![…]` inside of it. Attributes that hold
documentation are written as the comments they come from.
-/

namespace RowBindings.Source

open Reader

namespace Attribute

/-- What the token just written was, as far as the next one depends on it. -/
inductive Last
  | word
  | mark
  | lastComma
  deriving DecidableEq, Repr

mutual

/-- The layout of a token or group after what the last one was, and what it is itself. -/
def token (last : Last) (endsList : Bool) : Tree → Doc × Last
  | .word w => ((if last == .word then Doc.space else []) ++ Doc.word w, .word)
  | .literal text => ((if last == .word then Doc.space else []) ++ Doc.word text, .word)
  | .mark c _ =>
    if c == ',' && endsList then (Doc.comma true, .lastComma)
    else
      ((if last == .word && c == '=' then Doc.word " " else []) ++ Doc.word c.toString ++
        (if c == '=' then Doc.word " " else if c == ',' then Doc.space else []), .mark)
  | .group b inner =>
    let (inside, last) := tokens .mark inner
    if b == .round then
      (Doc.word "(" ++
        Doc.cbox Doc.indentation
          (Doc.zero ++ inside ++ (if last == .lastComma then [] else Doc.zero) ++ Doc.dedent) ++
        Doc.word ")", .mark)
    else (Doc.word b.opening ++ inside ++ Doc.word b.closing, .mark)

/-- The layout of the tokens in brackets, and what the last one was. -/
def tokens (last : Last) : List Tree → Doc × Last
  | [] => ([], last)
  | t :: rest =>
    let (written, last) := token last rest.isEmpty t
    let (others, last) := tokens last rest
    (written ++ others, last)

end

/-- Whether the comments inside a text are paired, so that it can be put into a comment. -/
def pairsComments : Nat → List Char → Bool
  | depth, '/' :: '*' :: rest => pairsComments (depth + 1) rest
  | 0, '*' :: '/' :: _ => false
  | depth + 1, '*' :: '/' :: rest => pairsComments depth rest
  | depth, _ :: rest => pairsComments depth rest
  | depth, [] => depth == 0

/-- A text without the blanks at its end. -/
def trimEnd (text : List Char) : List Char :=
  (text.reverse.dropWhile (· == ' ')).reverse

/-- A text without the blanks at the ends of its lines, the last one apart. -/
def trimLines (text : List Char) : List Char :=
  go text.length text
where
  go : Nat → List Char → List Char
    | 0, text => text
    | fuel + 1, text =>
      let line := text.takeWhile (· != '\n')
      match text.drop line.length with
      | [] => line
      | _ :: rest => trimEnd line ++ '\n' :: go fuel rest

/-- The comment for a text: up to the end of a line, or in brackets. The text must not start with
one of the characters that would make it a comment of another kind. -/
def comment (line opening : String) (notInLine notInBlock : List Char) (text : String) :
    Option Doc :=
  let cs := text.toList
  let startsWith := fun (set : List Char) => cs.head?.any set.contains
  if !cs.contains '\n' && !startsWith notInLine then
    some (Doc.word line ++ Doc.word (String.ofList (trimEnd cs)) ++ Doc.newline)
  else if pairsComments 0 cs && !startsWith notInBlock then
    some (Doc.word opening ++ Doc.word (String.ofList (trimLines cs)) ++ Doc.word "*/" ++
      Doc.newline)
  else none

/-- The comment that an attribute with a text stands for. -/
def commentFor (name : String) (isInner : Bool) (text : String) : Option Doc :=
  if name == "doc" then
    if isInner then comment "//!" "/*!" [] [] text
    else comment "///" "/**" ['/'] ['*', '/'] text
  else if name == "comment" then comment "//" "/*" [] ['*', '!'] text
  else none

/-- Reads the inside of an attribute's brackets. -/
def content (r : Readers) (isInner : Bool) : Reader Doc := do
  let path ← if ← sees (Ahead.word "unsafe") then do
      pure { layout := Doc.word (← anyWord), only? := some "unsafe" }
    else Path.bare
  let framed (body : Doc) : Doc :=
    Doc.word (if isInner then "#!" else "#") ++ Doc.word "[" ++ path.layout ++ body ++
      Doc.word "]" ++ Doc.space
  match ← ahead with
  | .group b inner :: rest =>
    set rest
    return framed (tokens .mark [.group b inner]).1
  | ts =>
    if Ahead.mark "=" ts && !Ahead.mark "==" ts && !Ahead.mark "=>" ts then
      mark "="
      match ← ahead with
      | [.literal text] =>
        set ([] : List Tree)
        let asComment := do
          let name ← path.only?
          commentFor name isInner (← stringValue? text)
        return asComment.getD (framed (Doc.word " = " ++ Doc.word text))
      | ts =>
        ensure !(Ahead.mark "#" ts && Ahead.group .square (ts.drop 1))
        return framed (Doc.word " = " ++ (← r.expression true).layout)
    else return framed []

/-- Reads the attributes before something. -/
def outer (r : Readers) : Reader Doc := do
  let all ← whileSeen (Ahead.mark "#") do
    mark "#"
    inGroup .square (content r false)
  return all.flatten

/-- Reads the attributes inside of something. -/
def inner (r : Readers) : Reader Doc := do
  let seesInner := fun ts => Ahead.mark "#" ts && Ahead.mark "!" (ts.drop 1)
  let all ← whileSeen seesInner do
    mark "#"
    mark "!"
    inGroup .square (content r true)
  return all.flatten

end Attribute

end RowBindings.Source
