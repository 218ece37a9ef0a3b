import RowBindings.Template.Machine

/-!
# Rendering

The value of an expression, and the text that a statement writes. Expressions change nothing but
what loops remember; statements change the names of the innermost frame.

What lies outside of a template, the bodies of macros and blocks and of other templates, is rendered
by a function that is given. Rendering at depth `n + 1` is defined by rendering at depth `n`.
-/

namespace RowBindings.Template

/-- A body to be rendered in a machine, with values that names get first, in order. A missing value
is replaced by its default. -/
structure Job where
  bindings : List (String × Value × Option Expr) := []
  body : List Stmt

/-- The text of a rendering, and the machine after it. -/
abbrev Outcome := Except Fault (Machine × String)

/-- How bodies outside of a template are rendered. -/
abbrev Runner := Job → Machine → Outcome

/-- An evaluation, which may change what loops remember. -/
abbrev Eval := StateT Memory (Except Fault)

/-- The result of an evaluation, and the machine after it. -/
def Machine.after {α : Type} (m : Machine) (e : Eval α) : Except Fault (Machine × α) := do
  let (x, memory) ← e.run m.memory
  return ({ m with memory }, x)

/-- The text that a body writes, as part of an evaluation. Of the machine only what loops remember
is kept. -/
def Runner.text (run : Runner) (job : Job) (m : Machine) : Eval String := do
  let (after, text) ← run job { m with memory := ← get }
  set after.memory
  return text

/-! ## Calls -/

/-- The arguments of a call. -/
structure Arguments where
  positional : List Value
  named : Option (List (String × Value))

/-- All arguments, the named ones as one value at the end. -/
def Arguments.toList (a : Arguments) : List Value :=
  match a.named with
  | none => a.positional
  | some named => a.positional ++ [.keywords named]

/-- The value for each parameter of a macro: a positional argument, a named one or none. -/
def macroArguments (positional : List Value) (named : List (String × Value)) :
    List String → Except Fault (List (String × Value))
  | [] => .ok []
  | p :: rest =>
    match positional, named.lookup p with
    | _ :: _, some _ => .error .tooManyArguments
    | v :: more, none => do return (p, v) :: (← macroArguments more named rest)
    | [], some v => do return (p, v) :: (← macroArguments [] named rest)
    | [], none => do return (p, .missing) :: (← macroArguments [] named rest)

/-- Parameters with their defaults, which belong to the last ones. -/
def Macro.withDefaults (m : Macro) : List (String × Option Expr) :=
  let count := m.params.length - m.defaults.length
  m.params.zip (List.replicate count none ++ m.defaults.map some)

/-- The text that a macro writes. Its parameters get their values from the last one on. -/
def Macro.call (run : Runner) (machine : Machine) (m : Macro) (args : Arguments) :
    Eval Value := do
  -- a map that comes last counts as the named arguments only if it was written as such
  let (positional, named) := splitKeywords args.toList
  if positional.length > m.params.length then throw .tooManyArguments
  let values ← macroArguments positional named m.params
  onlyKeywords m.params named
  let bindings := (m.withDefaults.zip values).map fun ((p, default), (_, v)) => (p, v, default)
  let inner : Machine :=
    { machine with
      frames := [{ source := .closure m.closure }, { source := .given }]
      outerDepth := machine.depth + 4
      parent := none
      silent := false }
  return .text (← Runner.text run { bindings := bindings.reverse, body := m.body }
    (← inner.checkDepth))

/-- The value of a call of a value. -/
def callValue (env : Environment) (run : Runner) (m : Machine) (callee : Value)
    (args : Arguments) : Eval Value := do
  match callee with
  | .function f => f.apply env.helpers args.toList
  | .macroOf macroDef => macroDef.call run m args
  | _ => throw .invalidOperation

/-- The value of a method of a loop. One gives its arguments in turn, the other tells whether they
differ from those that it got before. -/
def callLoop (id index : Nat) (name : String) (args : List Value) : Eval Value := do
  match name with
  | "cycle" => return (args[index % args.length]?).getD .missing
  | "changed" =>
    let same := ((← get).lookup id).any (Value.equalItems · args)
    modify fun memory => (id, args) :: memory.filter (·.1 != id)
    return .bool !same
  | _ => throw .unknownMethod

/-- The value of a call of what a value has under a name. -/
def callMember (env : Environment) (run : Runner) (m : Machine) (receiver : Value)
    (name : String) (args : Arguments) : Eval Value := do
  match receiver with
  | .loop id index .. => callLoop id index name args.toList
  | receiver => match receiver.field? name with
    | some callee => callValue env run m callee args
    | none => if receiver.isUndefined then throw .undefinedValue else throw .unknownMethod

/-- The text of a block. -/
def callBlock (run : Runner) (m : Machine) (name : String) : Except Fault (Machine × String) :=
  match m.blocks.lookup name with
  | some (body :: parents) => do
    let inner ← { m with current := some (name, parents) }.push {}
    let (after, text) ← run { body } inner
    return ({ after with current := m.current }.pop, text)
  | _ => .error .unknownBlock

/-- The text of the block in place of which the current one stands. -/
def callParentBlock (run : Runner) (m : Machine) : Eval String := do
  match m.current with
  | some (name, body :: parents) =>
    let inner ← { m with current := some (name, parents) }.push {}
    match run { body } { inner with silent := false, memory := ← get } with
    | .ok (after, text) =>
      set after.memory
      return text
    | .error _ => throw .badBlock
  | _ => throw .invalidOperation

/-! ## Expressions -/

/-- The values of named arguments given as a map. -/
def namedEntries : Value → Except Fault (List (String × Value))
  | .map entries => .ok (entries.map fun e => (e.1.toText, e.2))
  | .keywords entries => .ok entries
  | .undefined false => .error .undefinedValue
  | _ => .error .invalidOperation

mutual

/-- The value of an expression. -/
def eval (env : Environment) (run : Runner) (m : Machine) : Expr → Eval Value
  | .literal l => return l.value
  | .name n => return (m.lookup n).getD .missing
  | .list items => do return .list (← evalAll env run m items)
  | .map entries => do
    let pairs ← evalPairs env run m entries
    return .map (pairs.foldl (fun es (k, v) =>
      if es.any fun e => e.1.equal k then es.map fun e => if e.1.equal k then (e.1, v) else e
      else es ++ [(k, v)]) [])
  | .field e name => do (← eval env run m e).field name
  | .item e key => do
    let v ← eval env run m e
    v.item (← eval env run m key)
  | .slice e start stop step => do
    let v ← eval env run m e
    let start ← evalOption env run m start
    let stop ← evalOption env run m stop
    v.slice start stop (← evalOption env run m step)
  | .not e => do return .bool !(← (← eval env run m e).holds)
  | .negate e => do (← eval env run m e).negate
  | .binary .or a b => do
    let v ← eval env run m a
    if ← v.holds then return v else eval env run m b
  | .binary .and a b => do
    let v ← eval env run m a
    if ← v.holds then eval env run m b else return v
  | .binary op a b => do
    let v ← eval env run m a
    op.apply v (← eval env run m b)
  | .choice test a b => do
    if ← (← eval env run m test).holds then eval env run m a
    else match b with
      | some b => eval env run m b
      | none => return .undefined true
  | .filter name e args => do
    let v ← eval env run m e
    let args ← evalArguments env run m args
    applyFilter name v args.toList
  | .test name e args => do
    let v ← eval env run m e
    let args ← evalArguments env run m args
    return .bool (← applyTest name v args.toList)
  | .call (.name "super") args => do
    let args ← evalArguments env run m args
    if !args.toList.isEmpty then throw .invalidOperation
    return .text (← callParentBlock run m)
  | .call (.name "loop") args => do
    let _ ← evalArguments env run m args
    throw .invalidOperation
  | .call (.name n) args => do
    let args ← evalArguments env run m args
    match m.lookup n with
    | some callee => callValue env run m callee args
    | none => throw .unknownFunction
  | .call (.field (.name "self") name) _ => do
    let (after, text) ←
      callBlock run { m with silent := false, parent := none, memory := ← get } name
    set after.memory
    return .text text
  | .call (.field e name) args => do
    let receiver ← eval env run m e
    let args ← evalArguments env run m args
    callMember env run m receiver name args
  | .call e args => do
    let callee ← eval env run m e
    let args ← evalArguments env run m args
    callValue env run m callee args

/-- The values of expressions. -/
def evalAll (env : Environment) (run : Runner) (m : Machine) :
    List Expr → Eval (List Value)
  | [] => return []
  | e :: rest => do
    let v ← eval env run m e
    return v :: (← evalAll env run m rest)

/-- The values of entries. -/
def evalPairs (env : Environment) (run : Runner) (m : Machine) :
    List (Expr × Expr) → Eval (List (Value × Value))
  | [] => return []
  | (k, v) :: rest => do
    let key ← eval env run m k
    let value ← eval env run m v
    return (key, value) :: (← evalPairs env run m rest)

/-- The value of an expression, or none. -/
def evalOption (env : Environment) (run : Runner) (m : Machine) :
    Option Expr → Eval Value
  | none => return .none
  | some e => eval env run m e

/-- The values of arguments, the positional ones first. -/
def evalArguments (env : Environment) (run : Runner) (m : Machine) (args : List Arg) :
    Eval Arguments := do
  let positional ← evalPositional env run m args
  let (hasNamed, named) ← evalNamed env run m args
  return { positional, named := if hasNamed then some named else none }

/-- The values of positional arguments. -/
def evalPositional (env : Environment) (run : Runner) (m : Machine) :
    List Arg → Eval (List Value)
  | [] => return []
  | .positional e :: rest => do
    let v ← eval env run m e
    return v :: (← evalPositional env run m rest)
  | .spread e :: rest => do
    let vs ← (← eval env run m e).items
    return vs ++ (← evalPositional env run m rest)
  | .named .. :: rest => evalPositional env run m rest
  | .spreadNamed _ :: rest => evalPositional env run m rest

/-- The values of named arguments, and whether there are any; later ones replace earlier ones. -/
def evalNamed (env : Environment) (run : Runner) (m : Machine) :
    List Arg → Eval (Bool × List (String × Value))
  | [] => return (false, [])
  | .named name e :: rest => do
    let v ← eval env run m e
    let (_, more) ← evalNamed env run m rest
    return (true, if (more.lookup name).isSome then more else (name, v) :: more)
  | .spreadNamed e :: rest => do
    let entries ← namedEntries (← eval env run m e)
    let (_, more) ← evalNamed env run m rest
    return (true, entries.filter (fun e => (more.lookup e.1).isNone) ++ more)
  | .positional _ :: rest => evalNamed env run m rest
  | .spread _ :: rest => evalNamed env run m rest

end

/-! ## Targets -/

mutual

/-- Assigns a value to a target; a list of targets takes as many values as it has elements. -/
def assign (m : Machine) (v : Value) : Target → Except Fault Machine
  | .name n => .ok (m.store n v)
  | .field _ _ => .error .invalidOperation
  | .list targets => do
    let values ← match v with
      | .undefined _ | .none | .bool _ | .int _ | .float _ | .text _ | .macroOf _ | .function _ =>
        throw .cannotUnpack
      | v => v.items
    if values.length == targets.length then assignAll m values targets else throw .cannotUnpack

/-- Assigns values to targets, in order. -/
def assignAll (m : Machine) : List Value → List Target → Except Fault Machine
  | v :: values, t :: targets => do assignAll (← assign m v t) values targets
  | _, _ => .ok m

end

/-! ## Statements -/

/-- A value after filters. -/
def filtered (env : Environment) (run : Runner) (m : Machine) (v : Value) :
    List FilterCall → Eval Value
  | [] => return v
  | f :: rest => do
    let args ← evalArguments env run m f.args
    filtered env run m (← applyFilter f.name v args.toList) rest

/-- The text of a value that is shown. -/
def shown (v : Value) : Except Fault String :=
  match v with
  | .undefined false => .error .undefinedValue
  | v => .ok v.toText

/-- Text, unless nothing is written. -/
def written (m : Machine) (text : String) : String :=
  if m.silent then "" else text

/-- The states of a loop over elements, `previous` being the element before them. -/
def loopStates (id length : Nat) (previous : Value) (index : Nat) :
    List Value → List (Value × Value)
  | [] => []
  | v :: rest =>
    (v, .loop id index length previous (rest.head?.getD .missing))
      :: loopStates id length v (index + 1) rest

/-- Does something for each element, one after the other. -/
def forEach {α : Type} (step : Machine → α → Outcome) (m : Machine) : List α → Outcome
  | [] => .ok (m, "")
  | x :: rest => do
    let (m, first) ← step m x
    let (m, more) ← forEach step m rest
    return (m, first ++ more)

/-- The elements that pass the filter of a loop. Each is assigned to the target first. -/
def passing (env : Environment) (run : Runner) (m : Machine) (target : Target) (test : Expr) :
    List Value → Eval (List Value)
  | [] => return []
  | v :: rest => do
    let m ← assign m v target
    let keep ← (← eval env run m test).holds
    let more ← passing env run m target test rest
    return if keep then v :: more else more

/-- Another template, rendered into the innermost frame. -/
def embed (env : Environment) (run : Runner) (m : Machine) (name : Value)
    (ignoreMissing : Bool) : Outcome := do
  let choices ← match name with
    | .list _ | .map _ | .keywords _ | .record _ | .definitions .. => name.items
    | v => pure [v]
  let rec first : List Value → Except Fault (Option Tree)
    | [] => .ok none
    | .text n :: rest => match env.templates.lookup n with
      | some t => .ok (some t)
      | none => first rest
    | _ :: _ => .error .invalidOperation
  match ← first choices with
  | none =>
    if choices.isEmpty || ignoreMissing then return (m, "") else throw .templateNotFound
  | some t =>
    let inner : Machine :=
      { m with
        blocks := t.blocks.map fun (n, b) => (n, [b])
        outerDepth := m.outerDepth + 10
        parent := none }
    let inner ← (inner.changeFrame fun f => { f with closure := none }).checkDepth
    match run { body := t.body } inner with
    | .error _ => throw .badInclusion
    | .ok (after, text) =>
      let after := { after with
        blocks := m.blocks, lineage := m.lineage, outerDepth := m.outerDepth
        parent := m.parent, silent := m.silent, current := m.current }
      return (after.changeFrame fun f => { f with closure := m.ownClosure }, text)

/-- Builds upon another template: it is rendered once this one ends, with the blocks of this one in
place of its own. -/
def extend (env : Environment) (m : Machine) (name : Value) : Except Fault Machine := do
  if m.parent.isSome then throw .invalidOperation
  match name with
  | .text n =>
    if m.lineage.contains n then throw .invalidOperation
    match env.templates.lookup n with
    | none => throw .templateNotFound
    | some t =>
      let add (blocks : List (String × List (List Stmt))) (b : String × List Stmt) :=
        withName b.1 ((blocks.lookup b.1).getD [] ++ [b.2]) blocks
      return { m with
        blocks := t.blocks.foldl add m.blocks, lineage := n :: m.lineage
        parent := some t.body, silent := true }
  | _ => throw .invalidOperation

mutual

/-- The text that a statement writes. -/
def exec (env : Environment) (run : Runner) (m : Machine) : Stmt → Outcome
  | .text s => .ok (m, written m s)
  | .emit e => do
    let (m, v) ← m.after (eval env run m e)
    return (m, written m (← shown v))
  | .cond test body otherwise => do
    let (m, v) ← m.after (eval env run m test)
    if ← v.holds then execAll env run m body else execAll env run m otherwise
  | .each target iter filter body otherwise => do
    let (m, v) ← m.after (eval env run m iter)
    let values ← v.definedItems
    let (m, values) ← match filter with
      | none => pure (m, values)
      | some test => do m.after (passing env run (← m.push {}) target test values)
    let inner ← m.push {}
    let id := inner.depth
    let inner := { inner with memory := inner.memory.filter (·.1 != id) }
    let step (m : Machine) (state : Value × Value) : Outcome := do
      let m := m.changeFrame fun f => { f with loop := some state.2 }
      execAll env run (← assign m state.1 target) body
    let (inner, text) ← forEach step inner (loopStates id values.length .missing 0 values)
    if values.isEmpty then execAll env run inner.pop otherwise
    else return (inner.pop, text)
  | .scope assignments body => do
    let bind (m : Machine) (a : Target × Expr) : Except Fault Machine := do
      let (m, v) ← m.after (eval env run m a.2)
      assign m v a.1
    let inner ← assignments.foldlM bind (← m.push {})
    let (inner, text) ← execAll env run inner body
    return (inner.pop, text)
  | .assign target e => do
    let (m, v) ← m.after (eval env run m e)
    return (← assign m v target, "")
  | .capture target filters body => do
    let (after, text) ← execAll env run { m with silent := false } body
    let after := { after with silent := m.silent }
    let (after, v) ← after.after (filtered env run after (.text text) filters)
    return (← assign after v target, "")
  | .filtered filters body => do
    let (after, text) ← execAll env run { m with silent := false } body
    let after := { after with silent := m.silent }
    let (after, v) ← after.after (filtered env run after (.text text) filters)
    return (after, written after (← shown v))
  | .block name =>
    if m.parent.isSome || m.silent then .ok (m, "") else callBlock run m name
  | .extends e => do
    let (m, v) ← m.after (eval env run m e)
    return (← extend env m v, "")
  | .embed e ignoreMissing => do
    let (m, v) ← m.after (eval env run m e)
    embed env run m v ignoreMissing
  | .bindAll e target => do
    let inner ← { m with silent := false }.push {}
    let (inner, v) ← inner.after (eval env run inner e)
    let (inner, text) ← embed env run inner v false
    let defined := match inner.frames with
      | f :: _ => f.locals
      | [] => []
    return (← assign { inner.pop with silent := m.silent } (.definitions defined text) target, "")
  | .bindSome e names => do
    let inner ← { m with silent := true }.push {}
    let (inner, v) ← inner.after (eval env run inner e)
    let (inner, _) ← embed env run inner v false
    let values := names.map fun (name, bound) => (bound, (inner.lookup name).getD .missing)
    let outer := { inner.pop with silent := m.silent }
    return (values.reverse.foldl (fun m (name, v) => m.store name v) outer, "")
  | .define name params defaults body =>
    let free := (exprsNames defaults ++ stmtsNames body).eraseDups.filter (!params.contains ·)
    let (m, closure) := m.enclose free
    .ok (m.store name (.macroOf { name, params, defaults, body, closure }), "")
  | .run e => do
    let (m, _) ← m.after (eval env run m e)
    return (m, "")

/-- The text that statements write, one after the other. -/
def execAll (env : Environment) (run : Runner) (m : Machine) : List Stmt → Outcome
  | [] => .ok (m, "")
  | s :: rest => do
    let (m, first) ← exec env run m s
    let (m, more) ← execAll env run m rest
    return (m, first ++ more)

end

/-! ## Bodies -/

/-- Gives names their values, in order. -/
def bindValues (env : Environment) (run : Runner) (m : Machine) :
    List (String × Value × Option Expr) → Except Fault Machine
  | [] => .ok m
  | (name, v, default) :: rest => do
    let (m, v) ← match v, default with
      | .undefined _, some e => m.after (eval env run m e)
      | v, _ => pure (m, v)
    bindValues env run (m.store name v) rest

/-- How bodies are rendered at depth `n`: the body itself, and then what it builds upon. -/
def runAt (env : Environment) : Nat → Runner
  | 0 => fun _ _ => .error .invalidOperation
  | n + 1 => fun job m => do
    let bound ← bindValues env (runAt env n) m job.bindings
    let (after, text) ← execAll env (runAt env n) bound job.body
    match after.parent with
    | none => return (after, text)
    | some parent => do
      let (after, more) ← runAt env n { body := parent }
        { after with parent := none, silent := m.silent }
      return (after, text ++ more)

/-- Renders a template with given values. -/
def Environment.render (env : Environment) (name : String) (t : Tree)
    (given : List (String × Value)) : Except Fault String := do
  let m : Machine :=
    { given
      frames := [{ source := .given }]
      blocks := t.blocks.map fun (n, b) => (n, [b])
      lineage := [name] }
  let (_, text) ← runAt env (2 * Machine.depthLimit) { body := t.body } m
  return text

end RowBindings.Template
