import RowBindings.Template.Rendering
import RowBindings.Template.Standard

/-!
# What statements write

Rules for the text that a template writes, one for each kind of statement that the standard
templates are made of. `HasValue` says what an expression stands for, `Writes` and `WritesAll` say
which text a statement or a list of them gives. All of them leave the machine as it was, so that the
text of a template is put together from the texts of its parts.
-/

namespace RowBindings.Template

variable {env : Environment} {run : Runner} {m : Machine}

-- this makes the equations of the interpreter once, before the proofs that rewrite by them
attribute [local simp] eval exec

/-- Whether an expression has a value. -/
def HasValue (env : Environment) (run : Runner) (m : Machine) (e : Expr) (v : Value) : Prop :=
  (eval env run m e).run m.memory = .ok (v, m.memory)

/-- Whether a statement writes a text and changes nothing. -/
def Writes (env : Environment) (run : Runner) (m : Machine) (s : Stmt) (text : String) : Prop :=
  exec env run m s = .ok (m, text)

/-- Whether statements write a text and change nothing. -/
def WritesAll (env : Environment) (run : Runner) (m : Machine) (ss : List Stmt) (text : String) :
    Prop :=
  execAll env run m ss = .ok (m, text)

/-! ## Evaluations -/

theorem ok_bind {ε α β : Type} (a : α) (f : α → Except ε β) : (Except.ok a >>= f) = f a := rfl

/-- What follows an evaluation that remembers nothing goes on with its result. -/
theorem Eval.run_bind {α β : Type} {x : Eval α} {f : α → Eval β} {a : α} {memory : Memory}
    (h : x.run memory = .ok (a, memory)) : (x >>= f).run memory = (f a).run memory := by
  rw [StateT.run_bind, h]
  rfl

theorem Eval.run_lift {α : Type} {x : Except Fault α} {a : α} (h : x = .ok a) (memory : Memory) :
    (liftM x : Eval α).run memory = .ok (a, memory) := by
  rw [h]
  rfl

/-! ## Expressions -/

theorem HasValue.after {e : Expr} {v : Value} (h : HasValue env run m e v) :
    m.after (eval env run m e) = .ok (m, v) := by
  rw [HasValue] at h
  rw [Machine.after, h]
  rfl

theorem hasValue_name {n : String} {v : Value} (h : m.lookup n = some v) :
    HasValue env run m (.name n) v := by
  rw [HasValue, eval, h]
  rfl

theorem hasValue_field {e : Expr} {name : String} {v w : Value} (he : HasValue env run m e v)
    (hfield : v.field name = .ok w) : HasValue env run m (.field e name) w := by
  rw [HasValue, eval, Eval.run_bind he]
  exact Eval.run_lift hfield m.memory

theorem evalArguments_nil (memory : Memory) :
    (evalArguments env run m []).run memory = .ok (⟨[], none⟩, memory) := by
  rw [evalArguments, evalPositional, evalNamed]
  rfl

/-- One positional argument. -/
theorem evalArguments_one {e : Expr} {v : Value} (he : HasValue env run m e v) :
    (evalArguments env run m [.positional e]).run m.memory = .ok (⟨[v], none⟩, m.memory) := by
  have hpositional : (evalPositional env run m [.positional e]).run m.memory
      = .ok ([v], m.memory) := by
    rw [evalPositional, Eval.run_bind he, evalPositional]
    rfl
  rw [evalArguments, Eval.run_bind hpositional, evalNamed, evalNamed]
  rfl

theorem hasValue_filter {e : Expr} {name : String} {v w : Value} (he : HasValue env run m e v)
    (hfilter : applyFilter name v [] = .ok w) : HasValue env run m (.filter name e []) w := by
  rw [HasValue, eval, Eval.run_bind he, Eval.run_bind (evalArguments_nil m.memory)]
  exact Eval.run_lift hfilter m.memory

/-- A function called with one argument. -/
theorem hasValue_function {n : String} {f : Function} {e : Expr} {v w : Value}
    (hsuper : n ≠ "super") (hloop : n ≠ "loop") (hn : m.lookup n = some (.function f))
    (he : HasValue env run m e v) (hf : f.apply env.helpers [v] = .ok w) :
    HasValue env run m (.call (.name n) [.positional e]) w := by
  rw [HasValue, eval, Eval.run_bind (evalArguments_one he), hn]
  · exact Eval.run_lift hf m.memory
  · exact hsuper
  · exact hloop

/-! ## Statements -/

theorem writesAll_nil : WritesAll env run m [] "" := rfl

theorem writesAll_cons {s : Stmt} {ss : List Stmt} {first rest : String}
    (h : Writes env run m s first) (hs : WritesAll env run m ss rest) :
    WritesAll env run m (s :: ss) (first ++ rest) := by
  rw [Writes] at h
  rw [WritesAll] at hs
  rw [WritesAll, execAll, h]
  simp only [ok_bind, hs]
  rfl

/-- Statements after others go on with the machine that those leave. -/
theorem execAll_append {ss ts : List Stmt} {between after : Machine} {first rest : String}
    (hss : execAll env run m ss = .ok (between, first))
    (hts : execAll env run between ts = .ok (after, rest)) :
    execAll env run m (ss ++ ts) = .ok (after, first ++ rest) := by
  -- the machine changes at each statement, so the induction is for all machines
  induction ss generalizing m first with
  | nil =>
    cases hss
    rw [String.empty_append]
    exact hts
  | cons s ss ih =>
    rw [execAll] at hss
    cases hs : exec env run m s with
    | error fault =>
      rw [hs] at hss
      cases hss
    | ok result =>
      obtain ⟨inner, written⟩ := result
      rw [hs] at hss
      cases hmore : execAll env run inner ss with
      | error fault =>
        simp only [ok_bind, hmore] at hss
        cases hss
      | ok result =>
        obtain ⟨last, more⟩ := result
        simp only [ok_bind, hmore] at hss
        cases hss
        rw [List.cons_append, execAll, hs]
        simp only [ok_bind, ih hmore, String.append_assoc]
        rfl

theorem writesAll_singleton {s : Stmt} {text : String} (h : Writes env run m s text) :
    WritesAll env run m [s] text := by
  have hall := writesAll_cons h writesAll_nil
  rwa [String.append_empty] at hall

theorem writes_text (hloud : m.silent = false) (s : String) : Writes env run m (.text s) s := by
  rw [Writes, exec, written, hloud]
  rfl

theorem writes_emit (hloud : m.silent = false) {e : Expr} {v : Value} {text : String}
    (he : HasValue env run m e v) (hshown : shown v = .ok text) :
    Writes env run m (.emit e) text := by
  rw [Writes, exec, he.after]
  simp only [ok_bind, hshown, written, hloud]
  rfl

/-- Two texts are written as one. -/
theorem written_append (m : Machine) (a b : String) :
    written m (a ++ b) = written m a ++ written m b := by
  unfold written
  cases m.silent <;> rfl

/-- A text writes itself before what the other statements write. -/
theorem execAll_text (s : String) (ss : List Stmt) :
    execAll env run m (.text s :: ss)
      = (execAll env run m ss).map fun result => (result.1, written m s ++ result.2) := by
  rw [execAll, exec, ok_bind]
  simp only
  cases execAll env run m ss <;> rfl

/-- It makes no difference whether texts next to each other are one statement or several. -/
theorem execAll_joinTexts (ss : List Stmt) :
    execAll env run m (Standard.joinTexts ss) = execAll env run m ss := by
  -- another statement may change the machine for those after it
  fun_induction Standard.joinTexts ss generalizing m with
  | case1 => rfl
  | case2 a rest b more hjoin ih =>
    rw [execAll_text a rest, ← ih, hjoin, execAll_text, execAll_text, written_append]
    cases execAll env run m more with
    | error fault => rfl
    | ok result => simp only [Except.map, String.append_assoc]
  | case3 a rest hsplit ih => rw [execAll_text, execAll_text, ih]
  | case4 s rest hother ih => simp only [execAll, ih]

theorem WritesAll.joinTexts {ss : List Stmt} {text : String} (h : WritesAll env run m ss text) :
    WritesAll env run m (Standard.joinTexts ss) text :=
  (execAll_joinTexts ss).trans h

/-- A text is shown as it is. -/
theorem writes_emitText (hloud : m.silent = false) {e : Expr} {text : String}
    (he : HasValue env run m e (.text text)) : Writes env run m (.emit e) text :=
  writes_emit hloud he rfl

theorem writes_cond {test : Expr} {b : Bool} {body otherwise : List Stmt} {text : String}
    (htest : HasValue env run m test (.bool b))
    (hbody : WritesAll env run m (if b then body else otherwise) text) :
    Writes env run m (.cond test body otherwise) text := by
  rw [WritesAll] at hbody
  rw [Writes, exec, htest.after, ok_bind]
  cases b with
  | false => exact hbody
  | true => exact hbody

/-! ## Loops -/

/-- The machine with one more frame. -/
def Machine.within (m : Machine) (f : Frame) : Machine :=
  { m with frames := f :: m.frames }

/-- The frame of a loop, for one of the elements. -/
def loopFrame (element : String) (v state : Value) : Frame :=
  { locals := [(element, v)], loop := some state }

/-- Whether a frame is that of a loop before its first element, or after another one. -/
structure Frame.IsLoop (f : Frame) (element : String) : Prop where
  locals : f.locals = [] ∨ ∃ v, f.locals = [(element, v)]
  closure : f.closure = none
  source : f.source = .nowhere

theorem isLoop_loopFrame (element : String) (v state : Value) :
    (loopFrame element v state).IsLoop element where
  locals := Or.inr ⟨v, rfl⟩
  closure := rfl
  source := rfl

/-- The name of the element stands for it. -/
theorem hasValue_element (element : String) (v state : Value) :
    HasValue env run (m.within (loopFrame element v state)) (.name element) v := by
  refine hasValue_name ?_
  simp [Machine.lookup, Machine.within, Machine.lookupIn, loopFrame]

/-- Each element is bound as if it were the first one. -/
theorem assign_loopFrame {element : String} {f : Frame} (hf : f.IsLoop element) (v state : Value) :
    assign ((m.within f).changeFrame fun f => { f with loop := some state }) v (.name element)
      = .ok (m.within (loopFrame element v state)) := by
  -- a second element replaces what the first one left under the same name
  obtain ⟨locals, loop, closure, source⟩ := f
  obtain ⟨hlocals, hclosure, hsource⟩ := hf
  cases hclosure
  cases hsource
  rcases hlocals with hlocals | ⟨w, hlocals⟩
  · cases hlocals
    rfl
  · cases hlocals
    have hname : withName element v [(element, w)] = [(element, v)] := by simp [withName]
    simp only [assign, Machine.store, Machine.changeFrame, changeAt, Machine.ownClosure,
      Machine.within, List.head?_cons, Option.bind_some, hname, loopFrame]

/-- The texts of the elements, each with its position, one after the other. -/
def lines {α : Type} (line : α → Nat → String) (index : Nat) (items : List α) : String :=
  String.join ((items.zipIdx index).map fun (item, i) => line item i)

/-- What a loop does for one element. -/
def loopStep (env : Environment) (run : Runner) (element : String) (body : List Stmt)
    (m : Machine) (state : Value × Value) : Outcome := do
  let m := m.changeFrame fun f => { f with loop := some state.2 }
  execAll env run (← assign m state.1 (.name element)) body

/-- A loop writes the text of its body for each element, and only the frame of the loop changes. -/
theorem forEach_lines {α : Type} {value : α → Value} {element : String} {body : List Stmt}
    {line : α → Nat → String} {id length : Nat}
    (hbody : ∀ item index previous next,
      WritesAll env run
        (m.within (loopFrame element (value item) (.loop id index length previous next))) body
        (line item index))
    (items : List α) (index : Nat) (previous : Value) {f : Frame} (hf : f.IsLoop element) :
    ∃ after : Frame,
      forEach (loopStep env run element body) (m.within f)
          (loopStates id length previous index (items.map value))
        = .ok (m.within after, lines line index items) := by
  -- the frame is left as the loop frame of the last element, hence any loop frame to start with
  induction items generalizing index previous f with
  | nil => exact ⟨f, rfl⟩
  | cons item items ih =>
    let state : Value := .loop id index length previous ((items.map value).head?.getD .missing)
    have hstep : loopStep env run element body (m.within f) (value item, state)
        = .ok (m.within (loopFrame element (value item) state), line item index) := by
      rw [loopStep, assign_loopFrame hf, ok_bind]
      exact hbody item index previous _
    obtain ⟨after, hrest⟩ := ih (index + 1) (value item)
      (isLoop_loopFrame element (value item) state)
    refine ⟨after, ?_⟩
    rw [List.map_cons, loopStates, forEach, hstep]
    simp only [ok_bind, hrest]
    rw [lines, lines, List.zipIdx_cons, List.map_cons, String.join_cons]
    rfl

/-- A loop over values that stand for some items writes its body for each of them. -/
theorem writes_each {α : Type} {value : α → Value} {element : String} {iter : Expr}
    {items : List α} {body : List Stmt} {line : α → Nat → String}
    (hiter : HasValue env run m iter (.list (items.map value)))
    (hdepth : m.depth < Machine.depthLimit) (hmemory : m.memory = [])
    (hbody : ∀ item index previous next,
      WritesAll env run (m.within (loopFrame element (value item)
        (.loop (m.within {}).depth index items.length previous next))) body (line item index)) :
    Writes env run m (.each (.name element) iter none body []) (lines line 0 items) := by
  have hpush : m.push {} = .ok (m.within {}) := by
    rw [Machine.push, Machine.checkDepth, if_neg]
    · rfl
    · simp only [Machine.depth, List.length_cons, Machine.depthLimit] at hdepth ⊢
      omega
  have hforget :
      (m.within {}).memory.filter (·.1 != (m.within {}).depth) = (m.within {}).memory := by
    rw [Machine.within, hmemory]
    rfl
  have hempty : Frame.IsLoop {} element := ⟨Or.inl rfl, rfl, rfl⟩
  obtain ⟨after, hloop⟩ := forEach_lines hbody items 0 .missing hempty
  have hitems : (Value.list (items.map value)).definedItems = .ok (items.map value) := rfl
  rw [Writes, exec, hiter.after]
  simp only [ok_bind, hitems, pure_bind, hpush, List.length_map, hforget]
  refine (congrArg (fun outcome : Outcome => outcome >>= _) hloop).trans ?_
  cases items with
  | nil => rfl
  | cons item items => rfl

/-! ## Bodies and macros -/

/-- A body that builds upon no other template is rendered once its names are bound. -/
theorem runAt_of_execAll {job : Job} {bound after : Machine} {depth : Nat} {text : String}
    (hbind : bindValues env (runAt env depth) m job.bindings = .ok bound)
    (hbody : execAll env (runAt env depth) bound job.body = .ok (after, text))
    (hparent : after.parent = none) :
    runAt env (depth + 1) job m = .ok (after, text) := by
  rw [runAt]
  simp only [hbind, ok_bind, hbody, hparent]
  rfl

/-- The machine in which a macro is called. -/
def Machine.outsideMacro (m : Machine) (closure : Nat) : Machine :=
  { m with
    frames := [{ source := .closure closure }, { source := .given }]
    outerDepth := m.depth + 4
    parent := none
    silent := false }

/-- The machine in the body of a macro with one parameter. -/
def Machine.inMacro (m : Machine) (closure : Nat) (param : String) (v : Value) : Machine :=
  (m.outsideMacro closure).store param v

/-- The body of a macro is rendered with its parameter bound. -/
theorem runAt_inMacro {param : String} {body : List Stmt} {closure depth : Nat}
    {names : List String} {text : String}
    (hbody : WritesAll env (runAt env depth) (m.inMacro closure param (.texts names)) body text) :
    (Runner.text (runAt env (depth + 1)) { bindings := [(param, .texts names, none)], body }
        (m.outsideMacro closure)).run m.memory
      = .ok (text, m.memory) := by
  have hrun : runAt env (depth + 1) { bindings := [(param, .texts names, none)], body }
      (m.outsideMacro closure) = .ok (m.inMacro closure param (.texts names), text) :=
    runAt_of_execAll rfl hbody rfl
  have hmemory : ({ m.outsideMacro closure with memory := m.memory } : Machine)
      = m.outsideMacro closure := rfl
  have hget : (get : Eval Memory).run m.memory = .ok (m.memory, m.memory) := rfl
  have hlift := Eval.run_lift hrun m.memory
  rw [Runner.text, Eval.run_bind hget, hmemory, Eval.run_bind hlift]
  rfl

/-- A macro of one parameter, called with texts for it, gives what its body writes. -/
theorem hasValue_macro {n param : String} {body : List Stmt} {closure depth : Nat} {e : Expr}
    {names : List String} {text : String} (hsuper : n ≠ "super") (hloop : n ≠ "loop")
    (hn : m.lookup n
      = some (.macroOf { name := n, params := [param], defaults := [], body, closure }))
    (he : HasValue env (runAt env (depth + 1)) m e (.texts names))
    (hdepth : m.depth + 6 ≤ Machine.depthLimit)
    (hbody : WritesAll env (runAt env depth) (m.inMacro closure param (.texts names)) body text) :
    HasValue env (runAt env (depth + 1)) m (.call (.name n) [.positional e]) (.text text) := by
  -- two frames and the four levels that a call costs stay below the limit
  have hcheck : (m.outsideMacro closure).checkDepth = .ok (m.outsideMacro closure) := by
    rw [Machine.checkDepth, if_neg]
    simp only [Machine.outsideMacro, Machine.depth, Machine.depthLimit, List.length_cons,
      List.length_nil] at hdepth ⊢
    omega
  have hcall : callValue env (runAt env (depth + 1)) m
      (.macroOf { name := n, params := [param], defaults := [], body, closure })
        ⟨[.texts names], none⟩
      = do
        let inner ← liftM (m.outsideMacro closure).checkDepth
        let text ← Runner.text (runAt env (depth + 1))
          { bindings := [(param, .texts names, none)], body } inner
        return .text text := rfl
  rw [HasValue, eval, Eval.run_bind (evalArguments_one he), hn]
  · refine (congrArg (fun call : Eval Value => call.run m.memory) hcall).trans ?_
    rw [Eval.run_bind (Eval.run_lift hcheck m.memory), Eval.run_bind (runAt_inMacro hbody)]
    rfl
  · exact hsuper
  · exact hloop

end RowBindings.Template
