import RowBindings.Proofs.Generation.Steps
import RowBindings.Proofs.Statement.Insertion
import RowBindings.Proofs.TypeMap.RuleSet

/-!
# What the source for a table depends on

Templates are given the whole record of a table, with all that the catalog says about its columns.
What they write depends on little of it: the names of the schema and the table, the name and the type
of each column, whether it may be null and whether it belongs to the key, and whether the key is
generated. Columns count in the order in which they are listed, whatever their ordinals are.
-/

namespace RowBindings

/-! ## What records show -/

namespace Model

/-- What the standard templates show of a field. -/
def Field.shown (f : Field) : String × String × String :=
  (f.name, f.type, f.column.name)

namespace Record

open Catalog Statement TypeMap

theorem map_keyFields {α : Type} (g : Field → α) (r : Record) :
    r.keyFields.map g = r.key.indices.filterMap ((r.fields.map g)[·]?) := by
  rw [keyFields, List.map_filterMap]
  simp only [List.getElem?_map]

theorem map_insertParams {α : Type} (g : Field → α) (r : Record) :
    r.insertParams.map g
      = ((r.fields.map g).zipIdx.filter fun (_, i) =>
          !(r.key.isGenerated && r.key.contains i)).map (·.1) := by
  rw [insertParams, List.zipIdx_map, List.filter_map, List.map_map, List.map_map]
  rfl

/-- Two records that the standard templates cannot tell apart. -/
structure ShowsLike (r r' : Record) : Prop where
  name : r.name = r'.name
  schemaName : r.table.schema = r'.table.schema
  tableName : r.table.name = r'.table.name
  key : r.key = r'.key
  fields : r.fields.map Field.shown = r'.fields.map Field.shown

section Shown

variable {fields fields' : List Field} (h : fields.map Field.shown = fields'.map Field.shown)

include h

theorem map_of_shown {α : Type} (part : String × String × String → α) :
    fields.map (fun f => part f.shown) = fields'.map fun f => part f.shown := by
  have hparts := congrArg (List.map part) h
  rw [List.map_map, List.map_map] at hparts
  exact hparts

theorem map_name_of_shown : fields.map (·.name) = fields'.map (·.name) :=
  map_of_shown h (·.1)

theorem map_type_of_shown : fields.map (·.type) = fields'.map (·.type) :=
  map_of_shown h (·.2.1)

theorem columnNames_of_shown : columnNames fields = columnNames fields' :=
  map_of_shown h (·.2.2)

theorem numbered_of_shown : numbered fields = numbered fields' := by
  rw [numbered, columnNames_of_shown h, numbered]

theorem positioned_of_shown : Generation.positioned fields = Generation.positioned fields' := by
  rw [Generation.positioned, map_name_of_shown h, Generation.positioned]

theorem isEmpty_of_shown : fields.isEmpty = fields'.isEmpty := by
  have hempty := congrArg List.isEmpty h
  rwa [List.isEmpty_map, List.isEmpty_map] at hempty

end Shown

namespace ShowsLike

variable {r r' : Record} (h : r.ShowsLike r')

include h

theorem keyFields : r.keyFields.map Field.shown = r'.keyFields.map Field.shown := by
  rw [map_keyFields, map_keyFields, h.key, h.fields]

theorem insertParams : r.insertParams.map Field.shown = r'.insertParams.map Field.shown := by
  rw [map_insertParams, map_insertParams, h.key, h.fields]

theorem insertScan : r.insertScan.map Field.shown = r'.insertScan.map Field.shown := by
  rw [Record.insertScan, Record.insertScan, h.key]
  split
  · exact h.keyFields
  · rfl

theorem insert_eq : r.insert = r'.insert := by
  rw [Record.insert, Record.insert, insertCells, insertCells, h.tableName, h.key,
    isEmpty_of_shown h.insertParams, numbered_of_shown h.insertParams,
    columnNames_of_shown h.keyFields, columnNames_of_shown h.insertScan]

theorem select?_eq : r.select? = r'.select? := by
  rw [select?, select?, hasKey, hasKey, selectScan, selectScan, h.tableName, h.key,
    numbered_of_shown h.keyFields, columnNames_of_shown h.fields]

end ShowsLike

end Record

end Model

/-! ## What templates write -/

namespace Generation

open Catalog Model Model.Record Statement Template TypeMap

section Lines

variable {r r' : Record} (h : r.ShowsLike r') (deprecated : Bool)

include h

theorem recordLines_eq : recordLines r deprecated = recordLines r' deprecated := by
  have hfields (s : Record) : s.fields.flatMap (fun f =>
        [SourceLine.comment ("    /// " ++ f.column.name), .code (.field f.name f.type)])
      = (s.fields.map Field.shown).flatMap fun (name, type, column) =>
        [.comment ("    /// " ++ column), .code (.field name type)] := by
    rw [List.flatMap_map]
    rfl
  rw [recordLines, recordLines, h.name, h.schemaName, h.tableName, hfields r, hfields r', h.fields]

theorem insertionLines_eq (onConflict : OnConflict) :
    insertionLines r onConflict = insertionLines r' onConflict := by
  rw [insertionLines, insertionLines, h.insert_eq, map_name_of_shown h.insertParams]

theorem storedLines_eq (depth : Nat) : storedLines depth r = storedLines depth r' := by
  rw [storedLines, storedLines, positioned_of_shown h.insertScan]

theorem selectLines_eq (s : Select) : selectLines r deprecated s = selectLines r' deprecated s := by
  have hlength : r.keyFields.length = r'.keyFields.length := by
    have hlengths := congrArg List.length h.keyFields
    rwa [List.length_map, List.length_map] at hlengths
  rw [selectLines, selectLines, h.name, map_type_of_shown h.keyFields, hlength, selectScan,
    selectScan, positioned_of_shown h.fields]

theorem functionLines_eq : functionLines r deprecated = functionLines r' deprecated := by
  have hselect : selectLines r deprecated = selectLines r' deprecated :=
    funext fun s => selectLines_eq h deprecated s
  rw [functionLines, functionLines, createLines, createLines, createUnlessConflictLines,
    createUnlessConflictLines, h.name, h.key, h.select?_eq, hselect, insertionLines_eq h,
    insertionLines_eq h, storedLines_eq h, storedLines_eq h]

end Lines

section Rendering

variable {formatter : Formatter} {custom customEnum : Option String} {r : Renderer}

/-- Whatever custom templates there are besides, the standard ones are found. -/
theorem lookup_of_new (hr : Renderer.new {} formatter custom customEnum = .ok r) :
    r.environment.helpers = {}
    ∧ r.environment.templates.lookup recordTemplate = some Standard.record
    ∧ r.environment.templates.lookup methodsTemplate = some Standard.methods := by
  have hnew : ({ custom, customEnum } : Config).renderer {} formatter = .ok r := hr
  rw [Config.renderer_eq_ok hnew]
  have hrecord : (Renderer.standard {} .passthrough).environment.templates.lookup recordTemplate
      = some Standard.record := rfl
  have hmethods : (Renderer.standard {} .passthrough).environment.templates.lookup methodsTemplate
      = some Standard.methods := rfl
  simp only [Config.environment, List.lookup_append, hrecord, hmethods, Option.some_or, and_self]

variable (hr : Renderer.new {} formatter custom customEnum = .ok r) (record : Record)
  (deprecated : Bool)

include hr

theorem renderRecord_recordTemplate :
    r.renderRecord recordTemplate record deprecated
      = r.formatted record.table.name (sourceText (recordLines record deprecated)) :=
  render_eq_formatted (lookup_of_new hr).2.1 (render_record record deprecated)

theorem renderRecord_methodsTemplate :
    r.renderRecord methodsTemplate record deprecated
      = r.formatted record.table.name (sourceText (functionLines record deprecated)) :=
  render_eq_formatted (lookup_of_new hr).2.2
    (render_functions (lookup_of_new hr).1 record deprecated)

/-- Records that show alike are rendered alike. -/
theorem renderRecord_eq_of_showsLike {record' : Record} (h : record.ShowsLike record')
    {template : String} (htemplate : template ∈ [recordTemplate, methodsTemplate]) :
    r.renderRecord template record deprecated = r.renderRecord template record' deprecated := by
  rcases List.mem_pair.1 htemplate with rfl | rfl
  · rw [renderRecord_recordTemplate hr, renderRecord_recordTemplate hr, h.tableName,
      recordLines_eq h]
  · rw [renderRecord_methodsTemplate hr, renderRecord_methodsTemplate hr, h.tableName,
      functionLines_eq h]

end Rendering

end Generation

/-! ## Tables -/

namespace Catalog

/-- Two columns that agree on what is looked at for every column. Their ordinals, declared types,
defaults and identities may be different. -/
structure Column.LooksLike (c c' : Column) : Prop where
  name : c.name = c'.name
  dataType : c.dataType = c'.dataType
  notNull : c.notNull = c'.notNull
  isPrimaryKey : c.isPrimaryKey = c'.isPrimaryKey

/-- Two tables whose columns look alike, one by one, and whose keys are both generated or both not.
The tables may be of different kinds. -/
structure Table.LooksLike (policy : KeyPolicy) (t t' : Table) : Prop where
  schema : t.schema = t'.schema
  name : t.name = t'.name
  columns : List.Forall₂ Column.LooksLike t.columns t'.columns
  isGenerated : (PrimaryKey.ofColumns policy t.columns).isGenerated
    = (PrimaryKey.ofColumns policy t'.columns).isGenerated

theorem map_eq_map_of_forall₂ {α β γ : Type} {R : α → β → Prop} {f : α → γ} {g : β → γ}
    {xs : List α} {ys : List β} (h : List.Forall₂ R xs ys) (hR : ∀ x y, R x y → f x = g y) :
    xs.map f = ys.map g := by
  have heq : List.Forall₂ Eq (xs.map f) (ys.map g) :=
    List.forall₂_map_left_iff.2 (List.forall₂_map_right_iff.2 (h.imp hR))
  rwa [List.forall₂_eq_eq_eq] at heq

attribute [ext] PrimaryKey

/-- The positions of a key depend on which columns belong to it only. -/
theorem PrimaryKey.indices_ofColumns (policy : KeyPolicy) (columns : List Column) :
    (ofColumns policy columns).indices
      = ((columns.map (·.isPrimaryKey)).zipIdx.filter (·.1)).map (·.2) := by
  rw [ofColumns, List.zipIdx_map, List.filter_map, List.map_map]
  rfl

/-- Tables that look alike have records that show alike. -/
theorem Table.LooksLike.showsLike {policy : KeyPolicy} {t t' : Table} (h : t.LooksLike policy t')
    (rules : TypeMap.RuleSet) :
    (Model.Record.ofTable rules policy t).ShowsLike (Model.Record.ofTable rules policy t') where
  name := congrArg Identifier.typeName h.name
  schemaName := h.schema
  tableName := h.name
  key := by
    have hflags : t.columns.map (·.isPrimaryKey) = t'.columns.map (·.isPrimaryKey) :=
      map_eq_map_of_forall₂ h.columns fun _ _ hc => hc.isPrimaryKey
    have hindices : (PrimaryKey.ofColumns policy t.columns).indices
        = (PrimaryKey.ofColumns policy t'.columns).indices := by
      rw [PrimaryKey.indices_ofColumns, PrimaryKey.indices_ofColumns, hflags]
    rw [Model.Record.ofTable, Model.Record.ofTable]
    exact PrimaryKey.ext hindices h.isGenerated
  fields := by
    rw [Model.Record.ofTable, Model.Record.ofTable, List.map_map, List.map_map]
    refine map_eq_map_of_forall₂ h.columns fun c c' hc => ?_
    simp only [Function.comp_def, Model.Field.shown, Model.Record.fieldOf, hc.name, hc.dataType,
      hc.notNull]

end Catalog

namespace Generation

open Catalog Model Model.Record Statement Template TypeMap

/-- The parts of a record that its functions are made of, each in the order in which the columns are
listed. -/
structure FollowsColumns (t : Table) (r : Record) : Prop where
  fields : r.fields.map (·.column) = t.columns
  /-- A generated key is not bound but comes back; all else is bound. -/
  bound : r.insertParams.map (·.column)
    = t.columns.filter fun c => !(r.key.isGenerated && c.isPrimaryKey)
  stored : r.insertScan.map (·.column)
    = if r.key.isGenerated then t.columns.filter (·.isPrimaryKey) else []
  filled : r.selectScan.map (·.column) = t.columns
  /-- The placeholders are numbered from one: those of an insertion for the fields bound, those of a
  selection for the columns of the key. -/
  inserted : r.insertParams ≠ [] → r.insert.cells
    = ((r.insertParams.map (·.column.name)).zipIdx 1).map fun (name, k) => (name, .parameter k)
  compared : ∀ s, r.select? = some s → s.conditions = (keyColumnNames t).zipIdx 1
  /-- A column outside the key is bound, however the database fills it: there is a placeholder for
  it, and its field is in that place among those bound. -/
  outsideKey : ∀ (i : ℕ) (c : Column), t.columns[i]? = some c → c.isPrimaryKey = false →
    ∃ k : ℕ, r.insert.cells[k]? = some (c.name, .parameter (k + 1)) ∧ r.insertParams[k]? = r.fields[i]?

variable (rules : RuleSet) (policy : KeyPolicy)

theorem followsColumns_ofTable (t : Table) : FollowsColumns t (ofTable rules policy t) := by
  have hfields : (ofTable rules policy t).fields = t.columns.map (fieldOf rules) := rfl
  have hcells (hne : (ofTable rules policy t).insertParams ≠ []) :
      (ofTable rules policy t).insert.cells
        = ((columnNames (ofTable rules policy t).insertParams).zipIdx 1).map
          fun (name, k) => (name, .parameter k) := insertCells_of_ne_nil hne
  exact {
    fields := map_column_fieldOf rules t.columns
    bound := by
      rw [insertParams_ofTable, hfields, List.filter_map, map_column_fieldOf]
      rfl
    stored := by
      rw [insertScan, keyFields_ofTable]
      split
      · exact map_column_fieldOf rules _
      · rfl
    filled := map_column_fieldOf rules t.columns
    inserted := hcells
    compared := by
      intro s hs
      rw [select?] at hs
      split at hs
      · cases hs
        rw [numbered, columnNames_keyFields]
      · cases hs
    outsideKey := by
      intro i c hc hkey
      have hfield : (ofTable rules policy t).fields[i]? = some (fieldOf rules c) := by
        rw [hfields, List.getElem?_map, hc]
        rfl
      have hbound : fieldOf rules c ∈ (ofTable rules policy t).insertParams := by
        rw [insertParams_ofTable]
        refine List.mem_filter.2 ⟨List.mem_of_getElem? hfield, ?_⟩
        have hcolumn : (fieldOf rules c).column.isPrimaryKey = false := hkey
        rw [hcolumn, Bool.and_false]
        rfl
      obtain ⟨k, hk⟩ := List.getElem?_of_mem hbound
      refine ⟨k, ?_, hk.trans hfield.symm⟩
      rw [hcells (List.ne_nil_of_mem hbound), List.getElem?_map, List.getElem?_zipIdx, columnNames,
        List.getElem?_map, hk, Nat.add_comm 1 k]
      rfl }

/-- What the standard templates write for a table depends on nothing but the names, types, nullness
and key membership of its columns, one after the other, and on whether the key is generated: tables
that agree on these are rendered alike, or are refused alike by the formatter. What is rendered are
the lines of the record and of its functions, which take the columns as they are listed; declared
types and identities of columns outside the key do not keep them from being bound. -/
theorem renderRecord_eq_of_looksLike {formatter : Formatter} {custom customEnum : Option String}
    {r : Renderer} (hr : Renderer.new {} formatter custom customEnum = .ok r) {t t' : Table}
    (ht : t.LooksLike policy t') :
    (∀ template ∈ [recordTemplate, methodsTemplate], ∀ deprecated,
      r.renderRecord template (ofTable rules policy t) deprecated
        = r.renderRecord template (ofTable rules policy t') deprecated)
    ∧ (∀ deprecated, r.renderRecord recordTemplate (ofTable rules policy t) deprecated
      = r.formatted t.name (sourceText (recordLines (ofTable rules policy t) deprecated)))
    ∧ (∀ deprecated, r.renderRecord methodsTemplate (ofTable rules policy t) deprecated
      = r.formatted t.name (sourceText (functionLines (ofTable rules policy t) deprecated)))
    ∧ FollowsColumns t (ofTable rules policy t) :=
  ⟨fun _ htemplate deprecated =>
      renderRecord_eq_of_showsLike hr _ deprecated (ht.showsLike rules) htemplate,
    renderRecord_recordTemplate hr _, renderRecord_methodsTemplate hr _,
    followsColumns_ofTable rules policy t⟩

/-- Two counters, the second of which the database fills too, though it is not part of the key. -/
def counters : Table where
  schema := "public"
  name := "counters"
  kind := "r"
  columns := [
    { ordinal := 1, name := "id", dataType := "bigint", ddlType := "bigserial", notNull := true,
      defaultValue := some "nextval('ids')", isPrimaryKey := true, identity := .none },
    { ordinal := 2, name := "ticks", dataType := "integer", ddlType := "serial", notNull := true,
      defaultValue := some "nextval('ticks')", isPrimaryKey := false, identity := .always }]

/-- The same columns, declared otherwise and numbered from behind. -/
def plainCounters : Table where
  schema := "public"
  name := "counters"
  kind := "p"
  columns := [
    { ordinal := 7, name := "id", dataType := "bigint", ddlType := "serial", notNull := true,
      defaultValue := none, isPrimaryKey := true, identity := .byDefault },
    { ordinal := 3, name := "ticks", dataType := "integer", ddlType := "integer", notNull := true,
      defaultValue := none, isPrimaryKey := false, identity := .none }]

/-- The counters are rendered alike, and the second one is bound. -/
theorem renderRecord_counters :
    Renderer.new {} .passthrough none none = .ok (.standard {} .passthrough)
    ∧ counters.LooksLike {} plainCounters
    ∧ (Renderer.standard {} .passthrough).renderRecord methodsTemplate
        (ofTable (.ofFallback "Any") {} counters) false
      = (Renderer.standard {} .passthrough).renderRecord methodsTemplate
        (ofTable (.ofFallback "Any") {} plainCounters) false
    ∧ ∃ k : ℕ, (ofTable (.ofFallback "Any") {} counters).insert.cells[k]?
        = some ("ticks", .parameter (k + 1)) := by
  have hr : Renderer.new {} .passthrough none none = .ok (.standard {} .passthrough) := rfl
  have hlooks : counters.LooksLike {} plainCounters :=
    ⟨rfl, rfl, .cons ⟨rfl, rfl, rfl, rfl⟩ (.cons ⟨rfl, rfl, rfl, rfl⟩ .nil), by decide⟩
  obtain ⟨halike, -, -, hfollows⟩ := renderRecord_eq_of_looksLike (.ofFallback "Any") {} hr hlooks
  obtain ⟨k, hcell, -⟩ := hfollows.outsideKey 1 _ rfl rfl
  exact ⟨hr, hlooks, halike methodsTemplate (List.mem_cons_of_mem _ List.mem_cons_self) false, k,
    hcell⟩

end Generation

end RowBindings
