import RowBindings.Proofs.Generation.Pieces
import Mathlib.Data.List.ReduceOption

/-!
# The steps of a generation

A file is generated in steps: the custom templates are read, then a template is filled in for each
piece. Either every step succeeds, and the file is the header with the pieces after it, or the first
step that fails is the failure of the whole. A formatter changes nothing about this: it replaces each
piece by its formatted text, and the first piece that it refuses is the failure, unless a step before
that piece fails anyway.
-/

namespace RowBindings.Generation

open Catalog Model Template

/-! ## Going through lists -/

theorem bind_eq_error_iff {α β ε : Type} {x : Except ε α} {f : α → Except ε β} {e : ε} :
    (x >>= f) = .error e ↔ x = .error e ∨ ∃ value, x = .ok value ∧ f value = .error e := by
  cases x with
  | error other =>
    constructor
    · intro h
      exact Or.inl (congrArg Except.error (Except.error.inj h))
    · rintro (h | ⟨value, hvalue, -⟩)
      · exact congrArg Except.error (Except.error.inj h)
      · cases hvalue
  | ok value =>
    constructor
    · intro h
      exact Or.inr ⟨value, rfl, h⟩
    · rintro (h | ⟨other, hother, h⟩)
      · cases h
      · cases hother
        exact h

/-- Going through a list fails as the first element does that fails. -/
theorem mapM_eq_error_iff {α β ε : Type} (f : α → Except ε β) (items : List α) (e : ε) :
    items.mapM f = .error e
      ↔ ∃ before item after, items = before ++ item :: after
        ∧ (∀ other ∈ before, ∃ result, f other = .ok result) ∧ f item = .error e := by
  induction items with
  | nil =>
    constructor
    · intro h
      cases h
    · rintro ⟨before, item, after, h, -⟩
      exact absurd h (List.append_ne_nil_of_right_ne_nil before (List.cons_ne_nil item after)).symm
  | cons first items ih =>
    rw [List.mapM_cons, bind_eq_error_iff]
    constructor
    · rintro (hfirst | ⟨value, hfirst, h⟩)
      · exact ⟨[], first, items, rfl, fun _ hmem => absurd hmem List.not_mem_nil, hfirst⟩
      · rcases bind_eq_error_iff.1 h with hrest | ⟨values, -, h⟩
        · obtain ⟨before, item, after, rfl, hbefore, hitem⟩ := ih.1 hrest
          exact ⟨first :: before, item, after, rfl,
            List.forall_mem_cons.2 ⟨⟨value, hfirst⟩, hbefore⟩, hitem⟩
        · cases h
    · rintro ⟨before, item, after, h, hbefore, hitem⟩
      cases before with
      | nil =>
        cases h
        exact Or.inl hitem
      | cons other before =>
        cases h
        obtain ⟨⟨value, hvalue⟩, hbefore⟩ := List.forall_mem_cons.1 hbefore
        have hrest := ih.2 ⟨before, item, after, rfl, hbefore, hitem⟩
        exact Or.inr ⟨value, hvalue, bind_eq_error_iff.2 (Or.inl hrest)⟩

/-- Results that are changed afterwards are changed in the list. -/
theorem mapM_map {α β γ ε : Type} (f : α → Except ε β) (g : β → γ) (items : List α) :
    (items.mapM fun item => (f item).map g) = (items.mapM f).map (List.map g) := by
  induction items with
  | nil => rfl
  | cons item items ih =>
    rw [List.mapM_cons, List.mapM_cons, ih]
    cases f item with
    | error e => rfl
    | ok value => cases items.mapM f <;> rfl

/-- Going through lists one after the other. -/
theorem mapM_flatMap {α β γ ε : Type} (f : β → Except ε γ) (parts : α → List β) (items : List α) :
    (items.flatMap parts).mapM f
      = (items.mapM fun item => (parts item).mapM f).map List.flatten := by
  induction items with
  | nil => rfl
  | cons item items ih =>
    rw [List.flatMap_cons, List.mapM_append, List.mapM_cons, ih]
    cases (parts item).mapM f with
    | error e => rfl
    | ok values => cases (items.mapM fun item => (parts item).mapM f) <;> rfl

/-! ## Steps -/

/-- A step on the way to a generated file. -/
inductive Step
  /-- A custom template is read. -/
  | reading (template source : String)
  /-- A template is filled in for a piece of the file. -/
  | filling (template item : String) (given : List (String × Value))

namespace Step

/-- What a step is about: a custom template, or the table or enumeration of a piece. -/
def item : Step → String
  | reading template _ => template
  | filling _ item _ => item

/-- What a step gives before anything is formatted: the text of a piece, if it is to give one. -/
def text (env : Environment) : Step → Except Failure (Option String)
  | reading template source =>
    match Tree.ofText source with
    | .error fault => .error (.template template fault)
    | .ok _ => .ok none
  | filling template item given =>
    match env.templates.lookup template with
    | none => .error (.template item .templateNotFound)
    | some tree =>
      match env.render template tree given with
      | .error fault => .error (.rendering item fault)
      | .ok text => .ok (some text)

/-- What a step gives: a piece that the formatter has accepted, if it is to give one. -/
def run (env : Environment) (formatter : Formatter) (step : Step) :
    Except Failure (Option String) :=
  match step.text env with
  | .error failure => .error failure
  | .ok none => .ok none
  | .ok (some text) =>
    match formatter text with
    | none => .error (.format step.item text)
    | some formatted => .ok (some formatted)

variable {env : Environment} {formatter : Formatter} {step : Step}

/-- A failure names what the step is about, and it is none of the formatter. -/
theorem of_text_eq_error {failure : Failure} (h : step.text env = .error failure) :
    failure.item = step.item ∧ ∀ item fragment, failure ≠ .format item fragment := by
  cases step with
  | reading template source =>
    simp only [text] at h
    split at h
    · cases h
      exact ⟨rfl, fun _ _ hformat => by cases hformat⟩
    · cases h
  | filling template item given =>
    simp only [text] at h
    split at h
    · cases h
      exact ⟨rfl, fun _ _ hformat => by cases hformat⟩
    · split at h
      · cases h
        exact ⟨rfl, fun _ _ hformat => by cases hformat⟩
      · cases h

/-- A step gives what the formatter makes of its text. -/
theorem run_eq_ok_iff {piece : Option String} :
    step.run env formatter = .ok piece
      ↔ (step.text env = .ok none ∧ piece = none)
        ∨ ∃ text formatted, step.text env = .ok (some text) ∧ formatter text = some formatted
          ∧ piece = some formatted := by
  unfold run
  cases step.text env with
  | error failure => simp
  | ok result =>
    cases result with
    | none => simp [eq_comm]
    | some text =>
      cases hformatted : formatter text with
      | none => simp [hformatted]
      | some formatted => simp [hformatted, eq_comm]

/-- A step fails if it gives no text, or a text that the formatter refuses. -/
theorem run_eq_error_iff {failure : Failure} :
    step.run env formatter = .error failure
      ↔ step.text env = .error failure
        ∨ ∃ text, step.text env = .ok (some text) ∧ formatter text = none
          ∧ failure = .format step.item text := by
  unfold run
  cases step.text env with
  | error other => simp
  | ok result =>
    cases result with
    | none => simp
    | some text =>
      cases hformatted : formatter text with
      | none => simp [hformatted, eq_comm]
      | some formatted => simp [hformatted]

/-- Without formatting a step gives its text. -/
theorem run_passthrough : step.run env .passthrough = step.text env := by
  unfold run
  cases step.text env with
  | error failure => rfl
  | ok result => cases result <;> rfl

/-- Filling in a template is what the renderer does. -/
theorem run_filling (template item : String) (given : List (String × Value)) :
    run env formatter (filling template item given)
      = (Renderer.render ⟨env, formatter⟩ template item given).map some := by
  simp only [run, text, Renderer.render]
  cases env.templates.lookup template with
  | none => rfl
  | some tree =>
    cases hrender : env.render template tree given with
    | error fault => simp only [hrender]; rfl
    | ok text =>
      simp only [hrender, Step.item]
      cases formatter text <;> rfl

/-- A template that is filled in gives a piece. -/
theorem exists_of_run_filling {template item : String} {given : List (String × Value)}
    {piece : Option String} (h : run env formatter (filling template item given) = .ok piece) :
    ∃ text, piece = some text := by
  rw [run_filling] at h
  cases hrender : Renderer.render ⟨env, formatter⟩ template item given with
  | error failure =>
    rw [hrender] at h
    cases h
  | ok text =>
    rw [hrender] at h
    cases h
    exact ⟨text, rfl⟩

theorem item_of_run_eq_error {failure : Failure} (h : step.run env formatter = .error failure) :
    failure.item = step.item := by
  rcases run_eq_error_iff.1 h with h | ⟨text, -, -, rfl⟩
  · exact (of_text_eq_error h).1
  · rfl

end Step

/-! ## The steps for a file -/

/-- The template of a name, if its source is given and can be read. -/
def readable (name : String) : Option String → List (String × Tree)
  | none => []
  | some source =>
    match Tree.ofText source with
    | .error _ => []
    | .ok tree => [(name, tree)]

namespace Config

/-- The custom templates are read, that for tables first. -/
def readings (c : Config) : List Step :=
  c.custom.toList.map (.reading customTemplate)
    ++ c.customEnum.toList.map (.reading customEnumTemplate)

/-- The step for the piece of an enumeration. -/
def enumStep (c : Config) (m : EnumModel) : Step :=
  .filling (if c.customEnum.isSome then customEnumTemplate else enumTemplate) m.source.name
    [("enum", .ofEnumModel m), ("deprecated", .bool (c.deprecated.contains m.source.name))]

/-- The templates that are filled in for each table. -/
def tableTemplates (c : Config) : List String :=
  if c.custom.isSome then [customTemplate] else [recordTemplate, methodsTemplate]

/-- The step for a piece of a table. -/
def tableStep (c : Config) (record : Record) (template : String) : Step :=
  .filling template record.table.name
    [("struct", .record record), ("deprecated", .bool (c.deprecated.contains record.table.name))]

/-- The steps for the pieces of a table. -/
def tableSteps (c : Config) (record : Record) : List Step :=
  c.tableTemplates.map (c.tableStep record)

/-- The steps for a file: the custom templates are read, then there is a piece for each enumeration
of the schema, if they are included, and, for each table that is selected, one of the custom
template or one for the record and one for its functions. Columns are typed by the rules that are
configured, and after them by those of the enumerations. -/
def steps (c : Config) (s : Schema) : List Step :=
  let models := (if c.includeEnums then s.enumerations else []).map EnumModel.ofEnumeration
  let rules := EnumModel.register c.rules models
  c.readings ++ (models.map c.enumStep
    ++ (s.tables.filter fun t => c.selection.selects t.name).flatMap fun t =>
      c.tableSteps (.ofTable rules c.keyPolicy t))

/-- The templates that are filled in: the standard ones and those custom ones that can be read. -/
def environment (c : Config) (helpers : Helpers) : Environment where
  templates := (Renderer.standard helpers .passthrough).environment.templates
    ++ readable customTemplate c.custom ++ readable customEnumTemplate c.customEnum
  helpers := helpers

/-- What a step for the file gives. -/
def run (c : Config) (helpers : Helpers) (formatter : Formatter) :
    Step → Except Failure (Option String) :=
  Step.run (c.environment helpers) (c.pieceFormatter formatter)

variable {c : Config} {helpers : Helpers} {formatter : Formatter} {s : Schema}

/-! ## A generation is its steps -/

/-- The steps are those for the types and the records that a file is generated from. -/
theorem steps_eq :
    c.steps s
      = c.readings ++ ((c.enumModels s).map c.enumStep ++ (c.records s).flatMap c.tableSteps) := by
  rw [records, List.flatMap_map]
  rfl

/-- Reading a template, if there is one, is a step. -/
theorem mapM_reading (r : Renderer) (name : String) (source : Option String) :
    (source.toList.map (Step.reading name)).mapM (c.run helpers formatter)
      = (r.addOptional name source).map fun _ => source.toList.map fun _ => none := by
  cases source with
  | none => rfl
  | some source =>
    simp only [Renderer.addOptional, Renderer.addTemplate, Option.toList_some, List.map_cons,
      List.map_nil, List.mapM_cons, List.mapM_nil, run, Step.run, Step.text]
    cases Tree.ofText source <;> rfl

/-- A template that is added has been read. -/
theorem exists_tree_of_addTemplate {r extended : Renderer} {name source : String}
    (h : r.addTemplate name source = .ok extended) :
    ∃ tree, readable name (some source) = [(name, tree)]
      ∧ extended = { r with environment := { r.environment with
          templates := r.environment.templates ++ [(name, tree)] } } := by
  rw [Renderer.addTemplate] at h
  cases htree : Tree.ofText source with
  | error fault =>
    rw [htree] at h
    cases h
  | ok tree =>
    rw [htree] at h
    have hreadable : readable name (some source) = [(name, tree)] := by rw [readable, htree]
    exact ⟨tree, hreadable, (Except.ok.inj h).symm⟩

theorem addOptional_eq_ok {r extended : Renderer} {name : String} {source : Option String}
    (h : r.addOptional name source = .ok extended) :
    extended = { r with environment := { r.environment with
      templates := r.environment.templates ++ readable name source } } := by
  cases source with
  | none =>
    simp only [Renderer.addOptional, Except.ok.injEq] at h
    simp only [← h, readable, List.append_nil]
  | some source =>
    obtain ⟨tree, hreadable, hextended⟩ := exists_tree_of_addTemplate h
    rw [hreadable, hextended]

/-- The custom templates are read when the renderer is made. -/
theorem mapM_readings :
    c.readings.mapM (c.run helpers formatter)
      = (c.renderer helpers formatter).map fun _ => c.readings.map fun _ => none := by
  let standard := Renderer.standard helpers (c.pieceFormatter formatter)
  have hrenderer : c.renderer helpers formatter
      = standard.addOptional customTemplate c.custom
        >>= fun r => r.addOptional customEnumTemplate c.customEnum := rfl
  simp only [readings, List.mapM_append, List.map_append, List.map_map, hrenderer]
  rw [mapM_reading standard]
  cases standard.addOptional customTemplate c.custom with
  | error failure => rfl
  | ok r =>
    rw [mapM_reading r]
    simp only [bind, Except.bind, Except.map]
    cases r.addOptional customEnumTemplate c.customEnum <;> rfl

/-- The renderer, if there is one, has the templates that the steps fill in. -/
theorem renderer_eq_ok {r : Renderer} (h : c.renderer helpers formatter = .ok r) :
    r = ⟨c.environment helpers, c.pieceFormatter formatter⟩ := by
  obtain ⟨between, hbetween, h⟩ := bind_eq_ok_iff.1 h
  rw [addOptional_eq_ok h, addOptional_eq_ok hbetween]
  rfl

theorem lookup_readable_of_ne {name other : String} (h : other ≠ name) (source : Option String) :
    (readable name source).lookup other = none := by
  unfold readable
  split
  · rfl
  · split
    · rfl
    · simp only [List.lookup_cons, beq_eq_false_iff_ne.2 h, List.lookup_nil]

/-- A template that has been read is found under its name. -/
theorem isSome_lookup_readable {r extended : Renderer} {name : String} {source : Option String}
    (h : r.addOptional name source = .ok extended) :
    ((readable name source).lookup name).isSome = source.isSome := by
  cases source with
  | none => rfl
  | some source =>
    obtain ⟨tree, hreadable, -⟩ := exists_tree_of_addTemplate h
    rw [hreadable, List.lookup_cons_self, Option.isSome_some, Option.isSome_some]

/-- Enumerations get the custom template if there is one. -/
theorem has_customEnumTemplate_eq {r : Renderer} (h : c.renderer helpers formatter = .ok r) :
    r.has customEnumTemplate = c.customEnum.isSome := by
  obtain ⟨between, -, henum⟩ := bind_eq_ok_iff.1 h
  have hstandard : (Renderer.standard helpers .passthrough).environment.templates.lookup
      customEnumTemplate = none := rfl
  rw [renderer_eq_ok h, Renderer.has]
  simp only [environment, List.lookup_append, hstandard, Option.none_or,
    lookup_readable_of_ne (show customEnumTemplate ≠ customTemplate by decide)]
  exact isSome_lookup_readable henum

/-- The piece for an enumeration comes from its step. -/
theorem run_enumStep {r : Renderer} (h : c.renderer helpers formatter = .ok r) (m : EnumModel) :
    c.run helpers formatter (c.enumStep m) = (c.enumPiece r m).map some := by
  simp only [enumPiece, Renderer.renderEnum, has_customEnumTemplate_eq h]
  rw [renderer_eq_ok h]
  exact Step.run_filling _ _ _

theorem run_tableStep {r : Renderer} (h : c.renderer helpers formatter = .ok r) (record : Record)
    (template : String) :
    c.run helpers formatter (c.tableStep record template)
      = (r.renderRecord template record (c.deprecated.contains record.table.name)).map some := by
  rw [renderer_eq_ok h]
  exact Step.run_filling _ _ _

/-- What is written for a table are the pieces from its steps. -/
theorem mapM_tableSteps {r : Renderer} (h : c.renderer helpers formatter = .ok r)
    (record : Record) :
    ((c.tableSteps record).mapM (c.run helpers formatter)).map
        (fun pieces => "\n".intercalate pieces.reduceOption)
      = c.tablePiece r record := by
  unfold tablePiece tableSteps tableTemplates
  split
  · -- the only piece is that of the custom template
    simp only [List.map_cons, List.map_nil, List.mapM_cons, List.mapM_nil, run_tableStep h]
    cases r.renderRecord customTemplate record (c.deprecated.contains record.table.name) with
    | error failure => rfl
    | ok piece => exact congrArg Except.ok String.intercalate_singleton
  · simp only [List.map_cons, List.map_nil, List.mapM_cons, List.mapM_nil, run_tableStep h]
    cases r.renderRecord recordTemplate record (c.deprecated.contains record.table.name) with
    | error failure => rfl
    | ok declaration =>
      cases r.renderRecord methodsTemplate record (c.deprecated.contains record.table.name) with
      | error failure => rfl
      | ok methods =>
        refine congrArg Except.ok (String.intercalate_cons_cons.trans ?_)
        exact congrArg _ String.intercalate_singleton

/-- Every table has a piece. -/
theorem reduceOption_tableSteps_ne_nil {record : Record} {pieces : List (Option String)}
    (h : (c.tableSteps record).mapM (c.run helpers formatter) = .ok pieces) :
    pieces.reduceOption ≠ [] := by
  have htemplates : c.tableTemplates ≠ [] := by
    unfold tableTemplates
    split
    · exact List.cons_ne_nil _ _
    · exact List.cons_ne_nil _ _
  obtain ⟨template, others, hothers⟩ := List.exists_cons_of_ne_nil htemplates
  rw [tableSteps, hothers, List.map_cons, mapM_eq_ok_iff] at h
  obtain ⟨piece, rest, hpiece, -, rfl⟩ := List.forall₂_cons_left_iff.1 h
  obtain ⟨text, rfl⟩ := Step.exists_of_run_filling hpiece
  exact List.cons_ne_nil text _

/-- The pieces of tables follow those of enumerations, whether or not those of one table are put
together first. -/
theorem intercalate_pieces (enums : List String) {texts : List (List (Option String))}
    (h : ∀ pieces ∈ texts, pieces.reduceOption ≠ []) :
    "\n".intercalate (enums.map some ++ texts.flatten).reduceOption
      = "\n".intercalate (enums ++ texts.map fun pieces => "\n".intercalate pieces.reduceOption) := by
  let parts := enums.map (fun piece => [piece]) ++ texts.map List.reduceOption
  have hparts : ∀ part ∈ parts, part ≠ [] := by
    intro part hpart
    rcases List.mem_append.1 hpart with hpart | hpart
    · obtain ⟨piece, -, rfl⟩ := List.mem_map.1 hpart
      exact List.cons_ne_nil _ _
    · obtain ⟨pieces, hpieces, rfl⟩ := List.mem_map.1 hpart
      exact h pieces hpieces
  have hflatten : (enums.map some ++ texts.flatten).reduceOption = parts.flatten := by
    have henums : (enums.map some).reduceOption = enums := by
      rw [List.reduceOption, List.filterMap_map]
      exact List.filterMap_some
    rw [List.reduceOption_append, henums, List.flatten_append, ← List.flatMap_def,
      List.flatMap_singleton']
    exact congrArg _ List.filterMap_flatten
  have hmap : parts.map "\n".intercalate
      = enums ++ texts.map fun pieces => "\n".intercalate pieces.reduceOption := by
    simp only [parts, List.map_append, List.map_map, Function.comp_def,
      String.intercalate_singleton, List.map_id']
  rw [hflatten, Text.intercalate_flatten hparts, hmap]

/-- The pieces for the enumerations and the tables, where the templates have been read. -/
theorem mapM_pieces {r : Renderer} (h : c.renderer helpers formatter = .ok r) :
    (((c.enumModels s).map c.enumStep ++ (c.records s).flatMap c.tableSteps).mapM
        (c.run helpers formatter)).map (fun pieces => "\n".intercalate pieces.reduceOption)
      = (do
        let enums ← (c.enumModels s).mapM (c.enumPiece r)
        let tables ← (c.records s).mapM (c.tablePiece r)
        return "\n".intercalate (enums ++ tables)) := by
  have henums : ((c.enumModels s).map c.enumStep).mapM (c.run helpers formatter)
      = ((c.enumModels s).mapM (c.enumPiece r)).map (List.map some) := by
    rw [List.mapM_map, ← mapM_map]
    exact congrArg (fun f => (c.enumModels s).mapM f) (funext (run_enumStep h))
  have htables : (c.records s).mapM (c.tablePiece r)
      = ((c.records s).mapM fun record => (c.tableSteps record).mapM (c.run helpers formatter)).map
        (List.map fun pieces => "\n".intercalate pieces.reduceOption) := by
    rw [← mapM_map]
    exact congrArg (fun f => (c.records s).mapM f)
      (funext fun record => (mapM_tableSteps h record).symm)
  rw [List.mapM_append, henums, mapM_flatMap, htables]
  cases (c.enumModels s).mapM (c.enumPiece r) with
  | error failure => rfl
  | ok enums =>
    cases htexts : (c.records s).mapM fun record =>
        (c.tableSteps record).mapM (c.run helpers formatter) with
    | error failure => rfl
    | ok texts =>
      have hall : List.Forall₂ (fun pieces _ => pieces.reduceOption ≠ [] ∧ True) texts
          (c.records s) :=
        ((mapM_eq_ok_iff _ _ _).1 htexts).flip.imp fun _ _ hpieces =>
          ⟨reduceOption_tableSteps_ne_nil hpieces, trivial⟩
      exact congrArg Except.ok (intercalate_pieces enums ((List.forall₂_and_left _ _).1 hall).1)

/-- The header comes before the pieces. -/
theorem generate_of_renderer {r : Renderer} (h : c.renderer helpers formatter = .ok r) :
    c.generate helpers formatter s
      = (((c.enumModels s).map c.enumStep ++ (c.records s).flatMap c.tableSteps).mapM
          (c.run helpers formatter)).map
        fun pieces => c.header s ++ "\n".intercalate pieces.reduceOption := by
  have hpieces := congrArg (Except.map (c.header s ++ ·)) (mapM_pieces (s := s) h)
  have hgenerate : c.generate helpers formatter s
      = (do
        let enums ← (c.enumModels s).mapM (c.enumPiece r)
        let tables ← (c.records s).mapM (c.tablePiece r)
        return "\n".intercalate (enums ++ tables) : Except Failure String).map
          (c.header s ++ ·) := by
    simp only [generate, h, bind, Except.bind]
    cases (c.enumModels s).mapM (c.enumPiece r) with
    | error failure => rfl
    | ok enums => cases (c.records s).mapM (c.tablePiece r) <;> rfl
  rw [hgenerate, ← hpieces]
  cases ((c.enumModels s).map c.enumStep ++ (c.records s).flatMap c.tableSteps).mapM
    (c.run helpers formatter) <;> rfl

/-- A file is generated step by step. -/
theorem generate_eq_mapM :
    c.generate helpers formatter s
      = ((c.steps s).mapM (c.run helpers formatter)).map fun pieces =>
        c.header s ++ "\n".intercalate pieces.reduceOption := by
  rw [steps_eq, List.mapM_append, mapM_readings]
  cases hr : c.renderer helpers formatter with
  | error failure =>
    simp only [generate, hr]
    rfl
  | ok r =>
    -- reading templates gives no pieces
    have hreadings (pieces : List (Option String)) :
        ((c.readings.map fun _ => none) ++ pieces).reduceOption = pieces.reduceOption := by
      have hnone : (c.readings.map fun _ => (none : Option String)).reduceOption = [] := by
        rw [List.reduceOption, List.filterMap_map]
        exact List.filterMap_none _
      rw [List.reduceOption_append, hnone, List.nil_append]
    rw [generate_of_renderer hr]
    cases ((c.enumModels s).map c.enumStep ++ (c.records s).flatMap c.tableSteps).mapM
        (c.run helpers formatter) with
    | error failure => rfl
    | ok pieces =>
      refine congrArg Except.ok ?_
      simp only [hreadings]

/-! ## All steps, or the first that fails -/

/-- A file is generated if every step gives what it is to give. -/
theorem generate_eq_ok_iff_steps (out : String) :
    c.generate helpers formatter s = .ok out
      ↔ ∃ pieces, List.Forall₂ (fun step piece => c.run helpers formatter step = .ok piece)
          (c.steps s) pieces
        ∧ out = c.header s ++ "\n".intercalate pieces.reduceOption := by
  simp only [← mapM_eq_ok_iff]
  rw [generate_eq_mapM]
  cases (c.steps s).mapM (c.run helpers formatter) with
  | error failure => simp [Except.map]
  | ok pieces => simp [Except.map, eq_comm]

/-- A generation fails as the first step does that fails. -/
theorem generate_eq_error_iff_steps (failure : Failure) :
    c.generate helpers formatter s = .error failure
      ↔ ∃ before step after, c.steps s = before ++ step :: after
        ∧ (∀ other ∈ before, ∃ piece, c.run helpers formatter other = .ok piece)
        ∧ c.run helpers formatter step = .error failure := by
  rw [← mapM_eq_error_iff, generate_eq_mapM]
  cases (c.steps s).mapM (c.run helpers formatter) with
  | error other => simp [Except.map]
  | ok pieces => simp [Except.map]

/-! ## Formatting -/

/-- The formatter refuses the text of a step, and no step before it fails or gives a text that is
refused. -/
def RejectsFirst (c : Config) (helpers : Helpers) (formatter : Formatter) (s : Schema)
    (step : Step) (text : String) : Prop :=
  ∃ before after, c.steps s = before ++ step :: after
    ∧ (∀ other ∈ before, ∃ given, c.run helpers .passthrough other = .ok given
      ∧ ∀ accepted ∈ given, (c.pieceFormatter formatter accepted).isSome = true)
    ∧ c.run helpers .passthrough step = .ok (some text)
    ∧ c.pieceFormatter formatter text = none

/-- Where nothing is formatted, steps give their texts. -/
theorem run_passthrough :
    c.run helpers .passthrough = Step.text (c.environment helpers) := by
  funext step
  have hformatter : c.pieceFormatter .passthrough = .passthrough := ite_self _
  rw [run, hformatter]
  exact Step.run_passthrough

/-- Steps give pieces if they give texts and the formatter accepts each of these. -/
theorem exists_pieces_iff {env : Environment} {formatter : Formatter} (steps : List Step)
    (written : List String) :
    (∃ pieces, List.Forall₂ (fun step piece => step.run env formatter = .ok piece) steps pieces
        ∧ pieces.reduceOption = written)
      ↔ ∃ texts, List.Forall₂ (fun step text => step.text env = .ok text) steps texts
        ∧ List.Forall₂ (fun text piece => formatter text = some piece) texts.reduceOption
          written := by
  -- a step without a piece leaves the pieces written as they are
  induction steps generalizing written with
  | nil =>
    constructor
    · rintro ⟨pieces, hpieces, rfl⟩
      cases hpieces
      exact ⟨[], .nil, .nil⟩
    · rintro ⟨texts, htexts, hwritten⟩
      cases htexts
      cases hwritten
      exact ⟨[], .nil, rfl⟩
  | cons step steps ih =>
    constructor
    · rintro ⟨pieces, hpieces, rfl⟩
      obtain ⟨piece, rest, hpiece, hrest, rfl⟩ := List.forall₂_cons_left_iff.1 hpieces
      obtain ⟨texts, htexts, haccepted⟩ := (ih _).1 ⟨rest, hrest, rfl⟩
      rcases Step.run_eq_ok_iff.1 hpiece with ⟨htext, rfl⟩ | ⟨text, formatted, htext, hformat, rfl⟩
      · exact ⟨none :: texts, .cons htext htexts, haccepted⟩
      · exact ⟨some text :: texts, .cons htext htexts, .cons hformat haccepted⟩
    · rintro ⟨texts, htexts, haccepted⟩
      obtain ⟨text, rest, htext, hrest, rfl⟩ := List.forall₂_cons_left_iff.1 htexts
      cases text with
      | none =>
        obtain ⟨pieces, hpieces, hwritten⟩ := (ih written).2 ⟨rest, hrest, haccepted⟩
        have hpiece : step.run env formatter = .ok none :=
          Step.run_eq_ok_iff.2 (.inl ⟨htext, rfl⟩)
        exact ⟨none :: pieces, .cons hpiece hpieces, hwritten⟩
      | some text =>
        obtain ⟨formatted, later, hformat, hlater, rfl⟩ :=
          List.forall₂_cons_left_iff.1 haccepted
        obtain ⟨pieces, hpieces, rfl⟩ := (ih later).2 ⟨rest, hrest, hlater⟩
        have hpiece : step.run env formatter = .ok (some formatted) :=
          Step.run_eq_ok_iff.2 (.inr ⟨text, formatted, htext, hformat, rfl⟩)
        exact ⟨some formatted :: pieces, .cons hpiece hpieces, rfl⟩

/-- A formatted file is generated if there is one without formatting and the formatter accepts its
pieces, which it replaces. -/
theorem generate_eq_ok_iff_formatted (out : String) :
    c.generate helpers formatter s = .ok out
      ↔ ∃ texts pieces,
        List.Forall₂ (fun step text => c.run helpers .passthrough step = .ok text) (c.steps s) texts
        ∧ c.generate helpers .passthrough s
          = .ok (c.header s ++ "\n".intercalate texts.reduceOption)
        ∧ List.Forall₂ (fun text piece => c.pieceFormatter formatter text = some piece)
          texts.reduceOption pieces
        ∧ out = c.header s ++ "\n".intercalate pieces := by
  rw [generate_eq_ok_iff_steps, run_passthrough]
  constructor
  · rintro ⟨results, hresults, rfl⟩
    obtain ⟨texts, htexts, haccepted⟩ := (exists_pieces_iff _ _).1 ⟨results, hresults, rfl⟩
    refine ⟨texts, results.reduceOption, htexts, ?_, haccepted, rfl⟩
    rw [generate_eq_ok_iff_steps, run_passthrough]
    exact ⟨texts, htexts, rfl⟩
  · rintro ⟨texts, pieces, htexts, -, haccepted, rfl⟩
    obtain ⟨results, hresults, rfl⟩ := (exists_pieces_iff _ _).2 ⟨texts, htexts, haccepted⟩
    exact ⟨results, hresults, rfl⟩

/-- The first piece that the formatter refuses is the failure of the whole. -/
theorem generate_of_rejectsFirst {step : Step} {text : String}
    (h : c.RejectsFirst helpers formatter s step text) :
    c.generate helpers formatter s = .error (.format step.item text) := by
  obtain ⟨before, after, hsteps, hbefore, htext, hrefused⟩ := h
  rw [run_passthrough] at hbefore htext
  refine (generate_eq_error_iff_steps _).2 ⟨before, step, after, hsteps, ?_, ?_⟩
  · intro other hother
    obtain ⟨given, hgiven, haccepted⟩ := hbefore other hother
    cases given with
    | none => exact ⟨none, Step.run_eq_ok_iff.2 (.inl ⟨hgiven, rfl⟩)⟩
    | some accepted =>
      obtain ⟨formatted, hformatted⟩ := Option.isSome_iff_exists.1 (haccepted accepted rfl)
      exact ⟨some formatted,
        Step.run_eq_ok_iff.2 (.inr ⟨accepted, formatted, hgiven, hformatted, rfl⟩)⟩
  · exact Step.run_eq_error_iff.2 (.inr ⟨text, htext, hrefused, rfl⟩)

/-- A step that gives what it is to give gives a text, and the formatter accepts it. -/
theorem text_of_run {step : Step} {piece : Option String}
    (h : c.run helpers formatter step = .ok piece) :
    ∃ given, c.run helpers .passthrough step = .ok given
      ∧ ∀ accepted ∈ given, (c.pieceFormatter formatter accepted).isSome = true := by
  rw [run_passthrough]
  rcases Step.run_eq_ok_iff.1 h with ⟨htext, -⟩ | ⟨text, formatted, htext, hformatted, -⟩
  · exact ⟨none, htext, fun _ hnone => by cases hnone⟩
  · refine ⟨some text, htext, ?_⟩
    rintro accepted ⟨⟩
    exact Option.isSome_iff_exists.2 ⟨formatted, hformatted⟩

/-- A failure is that of the first piece that the formatter refuses or, if it refuses none before,
the one that there is without formatting. -/
theorem generate_eq_error_iff_formatted (failure : Failure) :
    c.generate helpers formatter s = .error failure
      ↔ (∃ step text, c.RejectsFirst helpers formatter s step text
          ∧ failure = .format step.item text)
        ∨ (¬ ∃ step text, c.RejectsFirst helpers formatter s step text)
          ∧ c.generate helpers .passthrough s = .error failure := by
  have hfails (failure : Failure) (h : c.generate helpers formatter s = .error failure) :
      (∃ step text, c.RejectsFirst helpers formatter s step text
          ∧ failure = .format step.item text)
        ∨ (¬ ∃ step text, c.RejectsFirst helpers formatter s step text)
          ∧ c.generate helpers .passthrough s = .error failure := by
    obtain ⟨before, step, after, hsteps, hbefore, hstep⟩ := (generate_eq_error_iff_steps _).1 h
    rcases Step.run_eq_error_iff.1 hstep with htext | ⟨text, htext, hrefused, rfl⟩
    · right
      constructor
      · -- the failure would be one of the formatter
        rintro ⟨other, text, hrejects⟩
        rw [generate_of_rejectsFirst hrejects] at h
        exact (Step.of_text_eq_error htext).2 _ _ (Except.error.inj h).symm
      · rw [← run_passthrough] at htext
        refine (generate_eq_error_iff_steps _).2 ⟨before, step, after, hsteps, ?_, htext⟩
        intro other hother
        obtain ⟨piece, hpiece⟩ := hbefore other hother
        obtain ⟨given, hgiven, -⟩ := text_of_run hpiece
        exact ⟨given, hgiven⟩
    · left
      rw [← run_passthrough] at htext
      refine ⟨step, text, ⟨before, after, hsteps, ?_, htext, hrefused⟩, rfl⟩
      intro other hother
      obtain ⟨piece, hpiece⟩ := hbefore other hother
      exact text_of_run hpiece
  constructor
  · exact hfails failure
  · rintro (⟨step, text, hrejects, rfl⟩ | ⟨hnone, hfailure⟩)
    · exact generate_of_rejectsFirst hrejects
    · cases hresult : c.generate helpers formatter s with
      | ok out =>
        -- what succeeds with formatting does without it
        obtain ⟨texts, pieces, -, hpassed, -, -⟩ := (generate_eq_ok_iff_formatted out).1 hresult
        rw [hpassed] at hfailure
        cases hfailure
      | error other =>
        rcases hfails other hresult with ⟨step, text, hrejects, -⟩ | ⟨-, hother⟩
        · exact absurd ⟨step, text, hrejects⟩ hnone
        · exact hother.symm.trans hfailure

/-- A generation is all or nothing. If every step gives what it is to give, the file is the header
with the pieces after it, in the order of the steps; otherwise the failure is that of the first step
that fails, and it names what that step is about. With a formatter a file is generated if there is
one without it and the formatter accepts every piece, and then the pieces are replaced by what it
makes of them. The first piece that it refuses is the failure, with its text as it is without
formatting, unless a step before that piece fails; then, and if it refuses none, the failure is the
one without formatting. -/
theorem generate_all_or_first_failure (c : Config) (helpers : Helpers) (formatter : Formatter)
    (s : Schema) :
    (∀ out, c.generate helpers formatter s = .ok out
      ↔ ∃ pieces, List.Forall₂ (fun step piece => c.run helpers formatter step = .ok piece)
          (c.steps s) pieces
        ∧ out = c.header s ++ "\n".intercalate pieces.reduceOption)
    ∧ (∀ failure, c.generate helpers formatter s = .error failure
      ↔ ∃ before step after, c.steps s = before ++ step :: after
        ∧ (∀ other ∈ before, ∃ piece, c.run helpers formatter other = .ok piece)
        ∧ c.run helpers formatter step = .error failure ∧ failure.item = step.item)
    ∧ (∀ out, c.generate helpers formatter s = .ok out
      ↔ ∃ texts pieces,
        List.Forall₂ (fun step text => c.run helpers .passthrough step = .ok text) (c.steps s) texts
        ∧ c.generate helpers .passthrough s
          = .ok (c.header s ++ "\n".intercalate texts.reduceOption)
        ∧ List.Forall₂ (fun text piece => c.pieceFormatter formatter text = some piece)
          texts.reduceOption pieces
        ∧ out = c.header s ++ "\n".intercalate pieces)
    ∧ (∀ failure, c.generate helpers formatter s = .error failure
      ↔ (∃ step text, c.RejectsFirst helpers formatter s step text
          ∧ failure = .format step.item text)
        ∨ (¬ ∃ step text, c.RejectsFirst helpers formatter s step text)
          ∧ c.generate helpers .passthrough s = .error failure) := by
  refine ⟨generate_eq_ok_iff_steps, ?_, generate_eq_ok_iff_formatted,
    generate_eq_error_iff_formatted⟩
  intro failure
  rw [generate_eq_error_iff_steps]
  constructor
  · rintro ⟨before, step, after, hsteps, hbefore, hstep⟩
    exact ⟨before, step, after, hsteps, hbefore, hstep, Step.item_of_run_eq_error hstep⟩
  · rintro ⟨before, step, after, hsteps, hbefore, hstep, -⟩
    exact ⟨before, step, after, hsteps, hbefore, hstep⟩

end Config

end RowBindings.Generation
