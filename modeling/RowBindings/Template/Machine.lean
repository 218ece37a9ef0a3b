import RowBindings.Template.Builtins

/-!
# Names and scopes

What a name stands for while a template is filled in. Names live in frames, one within the other; a
loop, a `with` and a block have frames of their own. The frame in which a macro is defined has a
closure: the names that macros of this frame can use, which follows later assignments in the frame.
-/

namespace RowBindings.Template

/-- Where a frame looks for names that it does not hold itself. -/
inductive Source
  | nowhere
  /-- The values that the whole rendering was given. -/
  | given
  | closure (id : Nat)
  deriving DecidableEq, Repr

/-- A frame. -/
structure Frame where
  locals : List (String × Value) := []
  /-- The state of the loop that the frame belongs to. -/
  loop : Option Value := none
  /-- The closure for macros defined in this frame. -/
  closure : Option Nat := none
  source : Source := .nowhere

/-- What does not change while a template is filled in. -/
structure Environment where
  templates : List (String × Tree)
  helpers : Helpers := {}

/-- What loops were last asked about: the values that `loop.changed` got last in each loop. -/
abbrev Memory := List (Nat × List Value)

/-- The state while a template is filled in. -/
structure Machine where
  /-- The values that the whole rendering was given. -/
  given : List (String × Value)
  /-- The frames, innermost first. -/
  frames : List Frame
  closures : List (List (String × Value)) := []
  /-- How deep the rendering is nested apart from its frames. -/
  outerDepth : Nat := 0
  /-- The bodies of each block, that of the furthest child first. -/
  blocks : List (String × List (List Stmt)) := []
  /-- The block being written, with the bodies of its parents. -/
  current : Option (String × List (List Stmt)) := none
  /-- The names of the templates that this one builds upon, and its own. -/
  lineage : List String := []
  /-- What is rendered in place of the template once it ends. -/
  parent : Option (List Stmt) := none
  /-- Nothing is written. -/
  silent : Bool := false
  memory : Memory := []

/-- An entry of a list is replaced, or added at the end. -/
def withName {α : Type} (name : String) (value : α) : List (String × α) → List (String × α)
  | [] => [(name, value)]
  | (n, v) :: rest => if n == name then (n, value) :: rest else (n, v) :: withName name value rest

/-- An element of a list is changed. -/
def changeAt {α : Type} (f : α → α) : Nat → List α → List α
  | _, [] => []
  | 0, x :: rest => f x :: rest
  | n + 1, x :: rest => x :: changeAt f n rest

namespace Machine

/-- The names of a closure. -/
def closureOf (m : Machine) (id : Nat) : List (String × Value) :=
  (m.closures[id]?).getD []

/-- What a frame knows of a name. -/
def lookupIn (m : Machine) (name : String) (f : Frame) : Option Value :=
  (f.locals.lookup name).or <|
    (if name == "loop" then f.loop else none).or <|
      match f.source with
      | .nowhere => none
      | .given => m.given.lookup name
      | .closure id => (m.closureOf id).lookup name

/-- What a name stands for. -/
def lookup (m : Machine) (name : String) : Option Value :=
  (m.frames.findSome? (m.lookupIn name)).or ((functions.lookup name).map .function)

/-- How deep the rendering is nested. -/
def depth (m : Machine) : Nat :=
  m.outerDepth + m.frames.length

/-- How deep renderings may be nested. -/
def depthLimit : Nat := 500

/-- The machine, unless it is nested too deep. -/
def checkDepth (m : Machine) : Except Fault Machine :=
  if m.depth > depthLimit then .error .invalidOperation else .ok m

/-- Opens a frame. -/
def push (m : Machine) (f : Frame) : Except Fault Machine :=
  { m with frames := f :: m.frames }.checkDepth

/-- Closes the innermost frame. -/
def pop (m : Machine) : Machine :=
  { m with frames := m.frames.tail }

/-- Changes the innermost frame. -/
def changeFrame (m : Machine) (f : Frame → Frame) : Machine :=
  { m with frames := changeAt f 0 m.frames }

/-- The closure of the innermost frame. -/
def ownClosure (m : Machine) : Option Nat :=
  m.frames.head?.bind (·.closure)

/-- Gives a name a value in the innermost frame. -/
def store (m : Machine) (name : String) (value : Value) : Machine :=
  let closures := match m.ownClosure with
    | some id => changeAt (withName name value) id m.closures
    | none => m.closures
  { m with closures }.changeFrame fun f => { f with locals := withName name value f.locals }

/-- Takes names into the closure of the innermost frame, as they are now. -/
def enclose (m : Machine) (names : List String) : Machine × Nat :=
  let (m, id) := match m.ownClosure with
    | some id => (m, id)
    | none =>
      let id := m.closures.length
      ({ m with closures := m.closures ++ [[]] }.changeFrame
        fun f => { f with closure := some id }, id)
  let add (m : Machine) (name : String) : Machine :=
    if ((m.closureOf id).lookup name).isSome then m
    else { m with closures := changeAt (withName name ((m.lookup name).getD .missing)) id m.closures }
  (names.foldl add m, id)

end Machine

/-! ## Names in templates -/

mutual

/-- The names that an expression looks up. -/
def Expr.names : Expr → List String
  | .literal _ => []
  | .name n => [n]
  | .list items => exprsNames items
  | .map entries => pairsNames entries
  | .field e _ => e.names
  | .item e key => e.names ++ key.names
  | .slice e start stop step =>
    e.names ++ optionNames start ++ optionNames stop ++ optionNames step
  | .not e => e.names
  | .negate e => e.names
  | .binary _ a b => a.names ++ b.names
  | .choice test a b => test.names ++ a.names ++ optionNames b
  | .filter _ e args => e.names ++ argsNames args
  | .test _ e args => e.names ++ argsNames args
  | .call callee args => callee.names ++ argsNames args

/-- The names that expressions look up. -/
def exprsNames : List Expr → List String
  | [] => []
  | e :: rest => e.names ++ exprsNames rest

/-- The names that entries look up. -/
def pairsNames : List (Expr × Expr) → List String
  | [] => []
  | (k, v) :: rest => k.names ++ v.names ++ pairsNames rest

/-- The names that an expression looks up, if there is one. -/
def optionNames : Option Expr → List String
  | none => []
  | some e => e.names

/-- The names that arguments look up. -/
def argsNames : List Arg → List String
  | [] => []
  | .positional e :: rest => e.names ++ argsNames rest
  | .named _ e :: rest => e.names ++ argsNames rest
  | .spread e :: rest => e.names ++ argsNames rest
  | .spreadNamed e :: rest => e.names ++ argsNames rest

end

/-- The names that filters look up. -/
def filtersNames (filters : List FilterCall) : List String :=
  filters.flatMap fun f => argsNames f.args

mutual

/-- The names that a statement looks up. -/
def Stmt.names : Stmt → List String
  | .text _ => []
  | .emit e => e.names
  | .cond test body otherwise => test.names ++ stmtsNames body ++ stmtsNames otherwise
  | .each _ iter filter body otherwise =>
    iter.names ++ optionNames filter ++ stmtsNames body ++ stmtsNames otherwise
  | .scope assignments body => assignments.flatMap (fun a => a.2.names) ++ stmtsNames body
  | .assign _ e => e.names
  | .capture _ filters body => filtersNames filters ++ stmtsNames body
  | .filtered filters body => filtersNames filters ++ stmtsNames body
  | .block _ => []
  | .extends e => e.names
  | .embed e _ => e.names
  | .bindAll e _ => e.names
  | .bindSome e _ => e.names
  | .define _ _ defaults body => exprsNames defaults ++ stmtsNames body
  | .run e => e.names

/-- The names that statements look up. -/
def stmtsNames : List Stmt → List String
  | [] => []
  | s :: rest => s.names ++ stmtsNames rest

end

end RowBindings.Template
