import RowBindings.Source.Token

/-!
# Reading token trees

A reader takes trees from the front of a list or fails; a choice between readers starts again from
where the first one started. What is ahead is looked at by plain functions on lists of trees.
-/

namespace RowBindings.Source

/-- A reader of token trees. -/
abbrev Reader := StateT (List Tree) Option

/-! ## Looking ahead -/

namespace Ahead

/-- Whether marks that spell a text are ahead. -/
def spells : List Char → List Tree → Bool
  | [], _ => true
  | [c], .mark d _ :: _ => c == d
  | c :: cs, .mark d joined :: rest => c == d && joined && spells cs rest
  | _, _ => false

/-- Whether punctuation is ahead, at least as the beginning of a longer run. -/
def mark (text : String) (ts : List Tree) : Bool := spells text.toList ts

/-- Whether a word is ahead. -/
def word (w : String) : List Tree → Bool
  | .word v :: _ => v == w
  | _ => false

/-- Whether one of some words is ahead. -/
def anyOf (ws : List String) : List Tree → Bool
  | .word v :: _ => ws.contains v
  | _ => false

/-- Whether an identifier is ahead. -/
def name : List Tree → Bool
  | .word v :: _ => Tree.isName v
  | _ => false

/-- Whether an identifier or keyword is ahead. -/
def anyWord : List Tree → Bool
  | .word _ :: _ => true
  | _ => false

/-- Whether a group in given brackets is ahead. -/
def group (b : Bracket) : List Tree → Bool
  | .group b' _ :: _ => b == b'
  | _ => false

/-- Whether a lifetime is ahead. -/
def lifetime : List Tree → Bool
  | .mark '\'' _ :: .word _ :: _ => true
  | _ => false

/-- Whether a literal is that of a number. -/
def isNumber (text : String) : Bool :=
  text.toList.head?.any (·.isDigit)

/-- Whether a literal is ahead; a number may have a minus before it. -/
def literal : List Tree → Bool
  | .literal _ :: _ => true
  | .word w :: _ => w == "true" || w == "false"
  | .mark '-' _ :: .literal text :: _ => isNumber text
  | _ => false

/-- What is ahead after one tree. A lifetime counts as one. -/
def skip : List Tree → List Tree
  | .mark '\'' _ :: .word _ :: rest => rest
  | _ :: rest => rest
  | [] => []

/-- The first words of a path, identifiers apart. -/
def pathWords : List String := ["self", "Self", "super", "crate"]

/-- Whether a path is ahead. -/
def path (ts : List Tree) : Bool :=
  name ts || anyOf pathWords ts || mark "::" ts

end Ahead

/-! ## Readers -/

namespace Reader

/-- What is ahead. -/
def ahead : Reader (List Tree) := get

/-- Asks something about what is ahead. -/
def sees (p : List Tree → Bool) : Reader Bool := do return p (← get)

/-- Fails unless a condition holds. -/
def ensure (b : Bool) : Reader Unit := if b then pure () else failure

/-- Takes punctuation. -/
def mark (text : String) : Reader Unit := do
  ensure (Ahead.mark text (← get))
  modify (·.drop text.length)

/-- Takes punctuation if it is ahead, and says whether it was. -/
def mark? (text : String) : Reader Bool := do
  let found ← sees (Ahead.mark text)
  if found then mark text
  return found

/-- Takes any word. -/
def anyWord : Reader String := fun ts =>
  match ts with
  | .word w :: rest => some (w, rest)
  | _ => none

/-- Takes a given word. -/
def word (w : String) : Reader Unit := do
  ensure ((← anyWord) == w)

/-- Takes a word if it is ahead, and says whether it was. -/
def word? (w : String) : Reader Bool := do
  let found ← sees (Ahead.word w)
  if found then word w
  return found

/-- Takes an identifier. -/
def name : Reader String := do
  let w ← anyWord
  ensure (Tree.isName w)
  return w

/-- Takes an identifier or one of some keywords. -/
def nameOr (ws : List String) : Reader String := do
  let w ← anyWord
  ensure (Tree.isName w || ws.contains w)
  return w

/-- Takes a lifetime. -/
def lifetime : Reader String := do
  ensure (Ahead.lifetime (← get))
  modify (·.drop 1)
  return "'" ++ (← anyWord)

/-- Takes a literal. -/
def literal : Reader String := do
  ensure (Ahead.literal (← get))
  match ← get with
  | .literal text :: rest => set rest; return text
  | .word w :: rest => set rest; return w
  | .mark c _ :: .literal text :: rest => set rest; return c.toString ++ text
  | _ => failure

/-- Takes a group in any brackets. -/
def anyGroup : Reader (Bracket × List Tree) := fun ts =>
  match ts with
  | .group b inner :: rest => some ((b, inner), rest)
  | _ => none

/-- Takes a group, whose inside one reader has to read to its end. -/
def inGroup {α : Type} (b : Bracket) (r : Reader α) : Reader α := do
  let (b', inner) ← anyGroup
  ensure (b == b')
  match r inner with
  | some (x, []) => return x
  | _ => failure

/-- Reads as long as a condition holds on what is ahead. -/
def whileSeen {α : Type} (more : List Tree → Bool) (r : Reader α) : Reader (List α) := do
  go ((← get).length + 1)
where
  go : Nat → Reader (List α)
    | 0 => failure
    | fuel + 1 => do
      if more (← get) then
        let x ← r
        return x :: (← go fuel)
      else return []

/-- Reads up to the end. -/
def toEnd {α : Type} (r : Reader α) : Reader (List α) := whileSeen (!·.isEmpty) r

/-- Reads elements with punctuation between each two, and perhaps after the last one, up to where
a condition holds or the punctuation lacks. Says whether punctuation came last. -/
def separated {α : Type} (between : String) (stop : List Tree → Bool) (r : Reader α) :
    Reader (List α × Bool) := do
  go ((← get).length + 1) false
where
  go : Nat → Bool → Reader (List α × Bool)
    | 0, _ => failure
    | fuel + 1, trailing => do
      if stop (← get) then return ([], trailing)
      let x ← r
      if ← mark? between then
        let (xs, trailing) ← go fuel true
        return (x :: xs, trailing)
      else return ([x], false)

/-- Reads elements with commas between them up to the end. -/
def commaList {α : Type} (r : Reader α) : Reader (List α) := do
  return (← separated "," (·.isEmpty) r).1

/-- Reads if a condition holds on what is ahead. -/
def when? {α : Type} (p : List Tree → Bool) (r : Reader α) : Reader (Option α) := do
  if p (← get) then return some (← r) else return none

end Reader

end RowBindings.Source
