import RowBindings.Proofs.Generation.FunctionLines
import Mathlib.Data.List.Forall2

/-!
# The pieces of the generated file

What the generated file is put together from: the lines of its header, and for each enumeration and
each table what the formatter makes of the lines laid down for it. Where nothing is formatted, the
whole file is known line by line.
-/

namespace RowBindings.Generation

open Catalog Model Template TypeMap

theorem bind_eq_ok_iff {α β ε : Type} {x : Except ε α} {f : α → Except ε β} {result : β} :
    (x >>= f) = .ok result ↔ ∃ value, x = .ok value ∧ f value = .ok result := by
  cases x with
  | error e =>
    refine ⟨fun h => (nomatch (h : Except.error e = .ok result)), ?_⟩
    rintro ⟨value, hvalue, -⟩
    cases hvalue
  | ok value =>
    refine ⟨fun h => ⟨value, rfl, h⟩, ?_⟩
    rintro ⟨other, hother, h⟩
    cases hother
    exact h

/-- Going through a list succeeds if it does for each element. -/
theorem mapM_eq_ok_iff {α β ε : Type} (f : α → Except ε β) (items : List α) (results : List β) :
    items.mapM f = .ok results
      ↔ List.Forall₂ (fun item result => f item = .ok result) items results := by
  induction items generalizing results with
  | nil =>
    rw [List.mapM_nil, List.forall₂_nil_left_iff]
    exact ⟨fun h => (Except.ok.inj h).symm, fun h => congrArg Except.ok h.symm⟩
  | cons item items ih =>
    rw [List.mapM_cons, List.forall₂_cons_left_iff, bind_eq_ok_iff]
    constructor
    · rintro ⟨first, hfirst, h⟩
      obtain ⟨rest, hrest, h⟩ := bind_eq_ok_iff.1 h
      exact ⟨first, rest, hfirst, (ih rest).1 hrest, (Except.ok.inj h).symm⟩
    · rintro ⟨first, rest, hfirst, hrest, rfl⟩
      exact ⟨first, hfirst, bind_eq_ok_iff.2 ⟨rest, (ih rest).2 hrest, rfl⟩⟩

/-- What the formatter of a renderer makes of the text for an item. -/
def Renderer.formatted (r : Renderer) (item text : String) : Except Failure String :=
  match r.formatter text with
  | none => .error (.format item text)
  | some piece => .ok piece

/-- A template that is found and filled in leaves it to the formatter. -/
theorem render_eq_formatted {r : Renderer} {template item text : String}
    {given : List (String × Value)} {tree : Tree}
    (hlookup : r.environment.templates.lookup template = some tree)
    (hrender : r.environment.render template tree given = .ok text) :
    r.render template item given = r.formatted item text := by
  rw [Renderer.render]
  simp only [hlookup, hrender]
  rfl

namespace Config

/-- The formatter that the pieces pass through. -/
def pieceFormatter (c : Config) (formatter : Formatter) : Formatter :=
  if c.format then formatter else .passthrough

/-- The text for an enumeration, before it is formatted. -/
def enumText (c : Config) (m : EnumModel) : String :=
  sourceText (enumLines m (c.deprecated.contains m.source.name))

/-- The text of the record for a table, before it is formatted. -/
def recordText (c : Config) (r : Record) : String :=
  sourceText (recordLines r (c.deprecated.contains r.table.name))

/-- The text of the functions for a table, before it is formatted. -/
def functionText (c : Config) (r : Record) : String :=
  sourceText (functionLines r (c.deprecated.contains r.table.name))

variable {c : Config} {helpers : Helpers} {formatter : Formatter} {s : Schema} {r : Renderer}

/-! ## The renderer -/

/-- The templates of a renderer: the standard ones come first, and after them at most one for
tables, unless there is one for enumerations. -/
theorem templates_renderer (henum : c.customEnum = none)
    (hr : c.renderer helpers formatter = .ok r) :
    r.formatter = c.pieceFormatter formatter ∧ r.environment.helpers = helpers
      ∧ ∃ extra, (extra = [] ∨ ∃ t, extra = [(customTemplate, t)])
        ∧ r.environment.templates
          = (Renderer.standard helpers formatter).environment.templates ++ extra := by
  rw [renderer, Renderer.new, henum] at hr
  obtain ⟨before, hbefore, hr⟩ := bind_eq_ok_iff.1 hr
  cases hr
  cases hcustom : c.custom with
  | none =>
    rw [hcustom] at hbefore
    cases hbefore
    exact ⟨rfl, rfl, [], .inl rfl, rfl⟩
  | some source =>
    rw [hcustom, Renderer.addOptional, Renderer.addTemplate] at hbefore
    cases htree : Tree.ofText source with
    | error fault =>
      rw [htree] at hbefore
      cases hbefore
    | ok t =>
      rw [htree] at hbefore
      cases hbefore
      exact ⟨rfl, rfl, [(customTemplate, t)], .inr ⟨t, rfl⟩, rfl⟩

/-- Standard templates are found whatever is added to them. -/
theorem lookup_renderer (henum : c.customEnum = none) (hr : c.renderer helpers formatter = .ok r)
    {name : String} {tree : Tree}
    (h : (Renderer.standard helpers formatter).environment.templates.lookup name = some tree) :
    r.environment.templates.lookup name = some tree := by
  obtain ⟨-, -, extra, -, htemplates⟩ := templates_renderer henum hr
  rw [htemplates, List.lookup_append, h, Option.some_or]

theorem has_customEnumTemplate (henum : c.customEnum = none)
    (hr : c.renderer helpers formatter = .ok r) : r.has customEnumTemplate = false := by
  obtain ⟨-, -, extra, hextra, htemplates⟩ := templates_renderer henum hr
  rw [Renderer.has, htemplates]
  rcases hextra with rfl | ⟨t, rfl⟩
  · rfl
  · rfl

/-! ## Single pieces -/

/-- A template that is found and filled in gives what the formatter makes of its text. -/
theorem render_eq_ok_iff {template item text piece : String} {given : List (String × Value)}
    {tree : Tree} (hlookup : r.environment.templates.lookup template = some tree)
    (hrender : r.environment.render template tree given = .ok text) :
    r.render template item given = .ok piece ↔ r.formatter text = some piece := by
  rw [render_eq_formatted hlookup hrender, Renderer.formatted]
  cases r.formatter text with
  | none =>
    constructor
    · intro h
      cases h
    · intro h
      cases h
  | some formatted => rw [Except.ok.injEq, Option.some.injEq]

/-- The piece for an enumeration is what the formatter makes of its text. -/
theorem enumPiece_eq_ok_iff (henum : c.customEnum = none)
    (hr : c.renderer helpers formatter = .ok r) (m : EnumModel) (piece : String) :
    c.enumPiece r m = .ok piece ↔ c.pieceFormatter formatter (c.enumText m) = some piece := by
  have hlookup : r.environment.templates.lookup enumTemplate = some Standard.enumeration :=
    lookup_renderer henum hr rfl
  rw [enumPiece, Renderer.renderEnum, has_customEnumTemplate henum hr, if_neg Bool.false_ne_true,
    ← (templates_renderer henum hr).1]
  exact render_eq_ok_iff hlookup (render_enumeration m _)

/-- The piece for a table is what the formatter makes of the record and of its functions. -/
theorem tablePiece_eq_ok_iff (hcustom : c.custom = none) (henum : c.customEnum = none)
    (hr : c.renderer {} formatter = .ok r) (record : Record) (piece : String) :
    c.tablePiece r record = .ok piece ↔
      ∃ declaration functions,
        c.pieceFormatter formatter (c.recordText record) = some declaration
        ∧ c.pieceFormatter formatter (c.functionText record) = some functions
        ∧ piece = declaration ++ "\n" ++ functions := by
  obtain ⟨hformatter, hhelpers, -⟩ := templates_renderer henum hr
  have hrecord (text : String) : r.renderRecord recordTemplate record
      (c.deprecated.contains record.table.name) = .ok text
        ↔ r.formatter (c.recordText record) = some text :=
    render_eq_ok_iff (lookup_renderer henum hr rfl) (render_record record _)
  have hmethods (text : String) : r.renderRecord methodsTemplate record
      (c.deprecated.contains record.table.name) = .ok text
        ↔ r.formatter (c.functionText record) = some text :=
    render_eq_ok_iff (lookup_renderer henum hr rfl) (render_functions hhelpers record _)
  rw [← hformatter]
  simp only [← hrecord, ← hmethods]
  rw [tablePiece, hcustom, Option.isSome_none, if_neg Bool.false_ne_true, bind_eq_ok_iff]
  constructor
  · rintro ⟨declaration, hdeclaration, h⟩
    obtain ⟨functions, hfunctions, h⟩ := bind_eq_ok_iff.1 h
    exact ⟨declaration, functions, hdeclaration, hfunctions, (Except.ok.inj h).symm⟩
  · rintro ⟨declaration, functions, hdeclaration, hfunctions, rfl⟩
    exact ⟨declaration, hdeclaration, bind_eq_ok_iff.2 ⟨functions, hfunctions, rfl⟩⟩

/-! ## The whole file -/

/-- The generated file is its header and the pieces, one after the other. -/
theorem generate_eq_ok_iff (out : String) :
    c.generate helpers formatter s = .ok out ↔
      ∃ r enums tables, c.renderer helpers formatter = .ok r
        ∧ List.Forall₂ (fun m piece => c.enumPiece r m = .ok piece) (c.enumModels s) enums
        ∧ List.Forall₂ (fun record piece => c.tablePiece r record = .ok piece) (c.records s) tables
        ∧ out = c.header s ++ "\n".intercalate (enums ++ tables) := by
  simp only [← mapM_eq_ok_iff]
  rw [generate, bind_eq_ok_iff]
  constructor
  · rintro ⟨r, hr, h⟩
    obtain ⟨enums, henums, h⟩ := bind_eq_ok_iff.1 h
    obtain ⟨tables, htables, h⟩ := bind_eq_ok_iff.1 h
    exact ⟨r, enums, tables, hr, henums, htables, (Except.ok.inj h).symm⟩
  · rintro ⟨r, enums, tables, hr, henums, htables, rfl⟩
    exact ⟨r, hr, bind_eq_ok_iff.2 ⟨enums, henums, bind_eq_ok_iff.2 ⟨tables, htables, rfl⟩⟩⟩

/-- The lines of the header. -/
def headerLines (c : Config) (s : Schema) : List SourceLine :=
  [.comment marker, .blank,
    .comment ("//! Package `" ++ c.package ++ "`: data access for the `" ++ s.name ++ "` schema."),
    .blank]
  ++ (if (c.imports s).isEmpty then [] else (c.imports s).map .fixed ++ [.blank])

theorem header_eq_blockText : c.header s = blockText (c.headerLines s) := by
  have himports {imports : List String} (h : imports ≠ []) :
      "\n".intercalate imports ++ "\n" = blockText (imports.map .fixed) := by
    have htext : "\n".intercalate imports = sourceText (imports.map .fixed) := by
      rw [sourceText, List.map_map]
      exact congrArg _ (List.map_id imports).symm
    rw [htext]
    exact sourceText_newline (mt List.map_eq_nil_iff.1 h)
  have hends {text : String} : text ++ "\n\n" = text ++ "\n" ++ "\n" := by
    rw [String.append_assoc]
    rfl
  have hafter : (if (c.imports s).isEmpty then "" else "\n".intercalate (c.imports s) ++ "\n\n")
      = blockText (if (c.imports s).isEmpty then [] else (c.imports s).map .fixed ++ [.blank]) := by
    cases hempty : (c.imports s).isEmpty with
    | true => rfl
    | false =>
      have hne : c.imports s ≠ [] := by
        intro hnil
        rw [hnil] at hempty
        exact Bool.noConfusion hempty
      rw [if_neg Bool.false_ne_true, if_neg Bool.false_ne_true, hends, himports hne,
        blockText_append]
      rfl
  have hheader : c.header s = marker ++ "\n\n//! Package `" ++ c.package
      ++ "`: data access for the `" ++ s.name ++ "` schema.\n\n"
      ++ (if (c.imports s).isEmpty then "" else "\n".intercalate (c.imports s) ++ "\n\n") := rfl
  rw [hheader, hafter, headerLines, blockText_append]
  refine String.toList_inj.1 ?_
  simp only [blockText_cons, blockText_nil, SourceLine.text_comment, SourceLine.text_blank,
    String.toList_append, String.reduceToList, List.append_assoc, List.cons_append,
    List.nil_append]

/-- The lines of the pieces. -/
def pieceLines (c : Config) (s : Schema) : List (List SourceLine) :=
  (c.enumModels s).map (fun m => enumLines m (c.deprecated.contains m.source.name))
  ++ (c.records s).map fun r => recordLines r (c.deprecated.contains r.table.name)
    ++ functionLines r (c.deprecated.contains r.table.name)

/-- The lines of the whole file. Without pieces it ends in an empty one. -/
def fileLines (c : Config) (s : Schema) : List SourceLine :=
  c.headerLines s ++ if (c.pieceLines s).isEmpty then [.blank] else (c.pieceLines s).flatten

/-- Only standard templates are filled in, and nothing is formatted. -/
structure IsPlain (c : Config) (formatter : Formatter) : Prop where
  custom : c.custom = none
  customEnum : c.customEnum = none
  formatter : c.pieceFormatter formatter = .passthrough

theorem pieceLines_ne_nil {piece : List SourceLine} (h : piece ∈ c.pieceLines s) : piece ≠ [] := by
  rcases List.mem_append.1 h with h | h
  · obtain ⟨m, -, rfl⟩ := List.mem_map.1 h
    exact List.cons_ne_nil _ _
  · obtain ⟨record, -, rfl⟩ := List.mem_map.1 h
    exact List.cons_ne_nil _ _

theorem fileLines_ne_nil : c.fileLines s ≠ [] := List.cons_ne_nil _ _

/-- The text of the whole file is its header and the texts of the pieces. -/
theorem sourceText_fileLines :
    sourceText (c.fileLines s)
      = c.header s ++ "\n".intercalate ((c.pieceLines s).map sourceText) := by
  rw [fileLines, header_eq_blockText]
  cases hpieces : c.pieceLines s with
  | nil => exact sourceText_append_cons _ .blank []
  | cons piece pieces =>
    have hne (p : List SourceLine) (hp : p ∈ piece :: pieces) : p ≠ [] :=
      pieceLines_ne_nil (hpieces ▸ hp)
    obtain ⟨l, ls, hlines⟩ := List.exists_cons_of_ne_nil
      (List.append_ne_nil_of_left_ne_nil (hne piece List.mem_cons_self) pieces.flatten)
    rw [← sourceText_flatten hne, List.isEmpty_cons, if_neg Bool.false_ne_true, List.flatten_cons,
      hlines, sourceText_append_cons]

/-- What the file has for an enumeration. -/
def enumFragment (c : Config) (e : Enumeration) : String :=
  c.enumText (.ofEnumeration e)

/-- What the file has for a table if its columns are resolved by the given rules. -/
def tableFragment (c : Config) (rules : RuleSet) (t : Table) : String :=
  c.recordText (.ofTable rules c.keyPolicy t) ++ "\n"
    ++ c.functionText (.ofTable rules c.keyPolicy t)

/-- The fragments are the pieces that are rendered. -/
theorem exists_renderer_of_isPlain (hplain : c.IsPlain formatter) :
    ∃ r, c.renderer {} formatter = .ok r
      ∧ (∀ e, c.enumPiece r (.ofEnumeration e) = .ok (c.enumFragment e))
      ∧ ∀ rules t, c.tablePiece r (.ofTable rules c.keyPolicy t) = .ok (c.tableFragment rules t) := by
  obtain ⟨hcustom, henum, hformatter⟩ := hplain
  have hr : c.renderer {} formatter
      = .ok (Renderer.standard {} (c.pieceFormatter formatter)) := by
    rw [renderer, Renderer.new, hcustom, henum]
    rfl
  refine ⟨_, hr, fun e => ?_, fun rules t => ?_⟩
  · rw [enumPiece_eq_ok_iff henum hr, hformatter]
    rfl
  · rw [tablePiece_eq_ok_iff hcustom henum hr, hformatter]
    exact ⟨_, _, rfl, rfl, rfl⟩

/-- A file is its header and the fragments. -/
theorem generate_eq_fragments (hplain : c.IsPlain formatter) (s : Schema) :
    c.generate {} formatter s
      = .ok (c.header s ++ "\n".intercalate ((c.enumerations s).map c.enumFragment
          ++ (c.tables s).map (c.tableFragment (c.allRules s)))) := by
  obtain ⟨r, hr, henums, htables⟩ := exists_renderer_of_isPlain hplain
  refine (generate_eq_ok_iff _).2 ⟨r, _, _, hr, ?_, ?_, rfl⟩
  · exact List.forall₂_map_left_iff.2
      (List.forall₂_map_right_iff.2 (List.forall₂_same.2 fun e _ => henums e))
  · exact List.forall₂_map_left_iff.2
      (List.forall₂_map_right_iff.2 (List.forall₂_same.2 fun t _ => htables _ t))

/-- Where nothing is formatted, a file is generated and is known line by line. -/
theorem generate_of_isPlain (hplain : c.IsPlain formatter) :
    c.generate {} formatter s = .ok (sourceText (c.fileLines s)) := by
  have hrecord (record : Record) : sourceText
      (recordLines record (c.deprecated.contains record.table.name)
        ++ functionLines record (c.deprecated.contains record.table.name))
      = c.recordText record ++ "\n" ++ c.functionText record :=
    sourceText_append (List.cons_ne_nil _ _) (List.cons_ne_nil _ _)
  rw [generate_eq_fragments hplain, sourceText_fileLines, pieceLines, enumModels, records,
    Model.enumModels, List.map_append, List.map_map, List.map_map, List.map_map, List.map_map]
  simp only [Function.comp_def, hrecord]
  rfl

/-- The configuration with the standard templates, whose pieces are not formatted. -/
def plain (c : Config) : Config :=
  { c with custom := none, customEnum := none, format := false }

/-- The standard templates never fail, whatever the schema, the rules, the key policy, the selection
and the deprecated names are: there always is a file. A value that is missing, or a selection asked of
a table without key, would be a failure, so that none is reached: a table has a selection just when
the templates take it to have a key. Every position of a key has its field. -/
theorem generate_plain (c : Config) (formatter : Formatter) (s : Schema) :
    c.plain.generate {} formatter s = .ok (sourceText (c.plain.fileLines s))
    ∧ ∀ r ∈ c.plain.records s,
      r.key.indices.map (r.fields[·]?) = r.keyFields.map some ∧ r.select?.isSome = r.hasKey := by
  refine ⟨generate_of_isPlain ⟨rfl, rfl, rfl⟩, ?_⟩
  intro r hr
  obtain ⟨t, -, rfl⟩ := List.mem_map.1 hr
  refine ⟨Record.map_indices_eq_keyFields _ _ t, ?_⟩
  unfold Record.select?
  split
  · exact Eq.symm ‹_›
  · exact (Bool.eq_false_iff.2 ‹_›).symm

end Config

end RowBindings.Generation
