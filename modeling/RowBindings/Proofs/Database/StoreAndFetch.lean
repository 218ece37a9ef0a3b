import Mathlib.Data.List.Nodup
import RowBindings.Proofs.Database.Relation
import RowBindings.Proofs.Statement.Insertion
import RowBindings.Proofs.Text.Lines
import RowBindings.Proofs.TypeMap.RuleSet

/-!
# Storing a record and fetching it by its key

What the functions generated for a record do, run against a table: `create` binds fields to the
insertion and stores what comes back by position, `getByKey` binds its arguments to the selection
and fills a record by position. A record created is found by its key, field by field as `create`
left it.
-/

namespace RowBindings.Database

open Catalog TypeMap Statement Model Model.Record

variable {V : Type}

/-- The values of the fields of a record, by the names of the fields. -/
abbrev Values (V : Type) := String → Option V

/-- The only row, if there is just one. -/
def oneRow? {α : Type} : List α → Option α
  | [row] => some row
  | _ => none

/-- The only row if there is one; more than one is a failure. -/
def optionalRow? {α : Type} : List α → Option (Option α)
  | [] => some none
  | [row] => some (some row)
  | _ => none

/-- The values at successive positions of a row, from `j` on, each under the name of its field. -/
def readRow? (row : List (Option V)) : List Field → Nat → Option (List (String × Option V))
  | [], _ => some []
  | f :: fields, j => do
    let value ← row[j]?
    return (f.name, value) :: (← readRow? row fields (j + 1))

/-- Assigns values to fields, one after the other. -/
def assign (self : Values V) : List (String × Option V) → Values V
  | [] => self
  | (name, value) :: rest => assign (fun other => if other = name then value else self other) rest

section Functions

variable [DecidableEq V] (r : Record) (rel : Relation V)

/-- Inserts a record: what is left of it, and the table after that, unless the insertion fails. -/
def create (chosen : Row V) (self : Values V) : Option (Values V × Relation V) := do
  let args := r.insertParams.map fun f => self f.name
  let (given, after) ← rel.runInsert? chosen (r.insert.text .fail) args
  if r.key.isGenerated then
    let row ← oneRow? given
    let values ← readRow? row r.insertScan 0
    return (assign self values, after)
  else
    return (self, after)

/-- Selects the record whose key fields have the values given. -/
def getByKey (key : List (Option V)) : Option (Option (List (String × Option V))) := do
  let params := r.selectParams.map (·.1)
  if params.length = key.length then
    let args ← params.mapM fun param => (params.zip key).lookup param
    let statement ← r.select?
    let given ← rel.runSelect? statement.text args
    match ← optionalRow? given with
    | none => return none
    | some row => return some (← readRow? row r.selectScan 0)
  else none

end Functions

/-! ## Rows and records by position -/

section Position

variable {fields : List Field} (value : Field → Option V)

theorem readRow?_append (before : List (Option V)) (fields : List Field) :
    readRow? (before ++ fields.map value) fields before.length
      = some (fields.map fun f => (f.name, value f)) := by
  induction fields generalizing before with
  | nil => rfl
  | cons f fields ih =>
    have hget : (before ++ (f :: fields).map value)[before.length]? = some (value f) := by simp
    have hnext := ih (before ++ [value f])
    rw [List.length_append, List.length_singleton, List.append_assoc, List.singleton_append]
      at hnext
    rw [readRow?, hget]
    simp only [Option.bind_eq_bind, Option.bind_some, List.map_cons, hnext]
    rfl

/-- A row of one value a field fills the fields with these values. -/
theorem readRow?_map (fields : List Field) :
    readRow? (fields.map value) fields 0 = some (fields.map fun f => (f.name, value f)) :=
  readRow?_append value [] fields

/-- A field that nothing is assigned to is left as it was. -/
theorem assign_of_notMem (self : Values V) {name : String} (h : name ∉ fields.map (·.name)) :
    assign self (fields.map fun f => (f.name, value f)) name = self name := by
  induction fields generalizing self with
  | nil => rfl
  | cons f fields ih =>
    rw [List.map_cons, List.mem_cons, not_or] at h
    rw [List.map_cons, assign, ih _ h.2, if_neg h.1]

/-- Of fields with distinct names, each has what it was assigned. -/
theorem assign_of_mem (self : Values V) (hnodup : (fields.map (·.name)).Nodup) {f : Field}
    (hf : f ∈ fields) : assign self (fields.map fun f => (f.name, value f)) f.name = value f := by
  induction fields generalizing self with
  | nil => cases hf
  | cons g fields ih =>
    rw [List.map_cons, List.nodup_cons] at hnodup
    rw [List.map_cons, assign]
    rcases List.mem_cons.1 hf with rfl | hf
    · rw [assign_of_notMem value _ hnodup.1, if_pos rfl]
    · exact ih _ hnodup.2 hf

/-- The parameter numbered for a field is bound to the value of that field. -/
theorem exists_numbered {f : Field} (hf : f ∈ fields) :
    ∃ k, (f.column.name, k) ∈ numbered fields ∧ argument (fields.map value) k = value f := by
  obtain ⟨i, hget⟩ := List.mem_iff_getElem?.1 hf
  refine ⟨i + 1, mem_numbered_iff.2 ⟨Nat.le_add_left 1 i, f, hget, rfl⟩, argument_succ ?_⟩
  rw [List.getElem?_map, hget]
  rfl

theorem exists_of_mem_numbered {name : String} {k : Nat} (h : (name, k) ∈ numbered fields) :
    ∃ f ∈ fields, name = f.column.name ∧ argument (fields.map value) k = value f := by
  obtain ⟨hle, f, hget, rfl⟩ := mem_numbered_iff.1 h
  refine ⟨f, List.mem_of_getElem? hget, rfl, ?_⟩
  have hargument : argument (fields.map value) (k - 1 + 1) = value f := by
    refine argument_succ ?_
    rw [List.getElem?_map, hget]
    rfl
  rwa [Nat.sub_add_cancel hle] at hargument

end Position

theorem mapM_eq_some_of_zip {α β : Type} {find? : α → Option β} {params : List α} {args : List β}
    (hlength : params.length = args.length)
    (hfind : ∀ entry ∈ params.zip args, find? entry.1 = some entry.2) :
    params.mapM find? = some args := by
  induction params generalizing args with
  | nil =>
    rw [List.length_eq_zero_iff.1 hlength.symm]
    rfl
  | cons param params ih =>
    cases args with
    | nil => cases hlength
    | cons arg args =>
      have hfirst := hfind (param, arg) List.mem_cons_self
      have hothers := ih (Nat.succ_inj.1 hlength) fun entry hentry =>
        hfind entry (List.mem_cons_of_mem _ hentry)
      rw [List.mapM_cons, hfirst, hothers]
      rfl

/-- Arguments looked up by the names of the parameters come in the order of the parameters. -/
theorem mapM_lookup_zip {α β : Type} [DecidableEq α] {params : List α} {args : List β}
    (hnodup : params.Nodup) (hlength : params.length = args.length) :
    params.mapM (fun param => (params.zip args).lookup param) = some args := by
  refine mapM_eq_some_of_zip hlength fun entry hentry => lookup_of_mem ?_ hentry
  rwa [List.map_fst_zip (Nat.le_of_eq hlength)]

theorem keyParamName_injective {i j : Nat} (h : keyParamName i = keyParamName j) : i = j :=
  Text.toString_injective ((String.append_right_inj "pk").1 h)

/-- No two parameters of the function that selects by key have one name. -/
theorem nodup_selectParams (r : Record) : (r.selectParams.map (·.1)).Nodup := by
  rw [selectParams_map_fst]
  exact List.Pairwise.map _ (fun i j hne heq => hne (keyParamName_injective heq)) List.nodup_range

/-! ## Records of tables -/

/-- What storing and fetching uses of the record of a table: the fields are for the columns, and
neither two columns nor two fields have the same name. -/
structure Unambiguous (r : Record) : Prop where
  columns : r.table.columns = r.fields.map (·.column)
  keyFields : r.keyFields = r.fields.filter (·.column.isPrimaryKey)
  insertParams : r.insertParams
    = r.fields.filter fun f => !(r.key.isGenerated && f.column.isPrimaryKey)
  keyed : r.hasKey = true
  keyFields_ne_nil : r.keyFields ≠ []
  columnNames : (columnNames r.fields).Nodup
  fieldNames : (r.fields.map (·.name)).Nodup

theorem unambiguous_ofTable (rules : RuleSet) (policy : KeyPolicy) {t : Table}
    (hkey : (ofTable rules policy t).hasKey = true)
    (hcolumns : (t.columns.map (·.name)).Nodup)
    (hfields : ((ofTable rules policy t).fields.map (·.name)).Nodup) :
    Unambiguous (ofTable rules policy t) where
  columns := by
    rw [ofTable, List.map_map]
    exact (List.map_id _).symm
  keyFields := keyFields_eq_filter rules policy t
  insertParams := insertParams_ofTable rules policy t
  keyed := hkey
  keyFields_ne_nil := (keyFields_ne_nil_iff rules policy t).2 hkey
  columnNames := by
    rw [ofTable, columnNames_ofTable]
    exact hcolumns
  fieldNames := hfields

/-- The value that a field has once the record is stored: a key that the database generates is what
it chose for the column. -/
def storedValue (r : Record) (chosen : Row V) (self : Values V) (f : Field) : Option V :=
  if r.key.isGenerated && f.column.isPrimaryKey then chosen f.column.name else self f.name

/-- The row that the insertion of a record makes. -/
def insertedRow (r : Record) (chosen : Row V) (self : Values V) : Row V :=
  newRow r.insertCells (r.insertParams.map fun f => self f.name) chosen

section Unambiguous

variable {r : Record} (h : Unambiguous r) (chosen : Row V) (self : Values V)

include h

theorem eq_of_column_name {f g : Field} (hf : f ∈ r.fields) (hg : g ∈ r.fields)
    (hname : f.column.name = g.column.name) : f = g :=
  List.inj_on_of_nodup_map h.columnNames hf hg hname

/-- The cells of an insertion are for some of the fields, in their order. -/
theorem insertCells_map_fst :
    ∃ p : Field → Bool, r.insertCells.map (·.1) = columnNames (r.fields.filter p) := by
  rw [insertCells]
  split
  · refine ⟨(·.column.isPrimaryKey), ?_⟩
    rw [List.map_map, ← h.keyFields]
    exact List.map_id _
  · refine ⟨fun f => !(r.key.isGenerated && f.column.isPrimaryKey), ?_⟩
    rw [List.map_map, ← h.insertParams]
    exact numbered_map_fst r.insertParams

theorem nodup_insertCells : (r.insertCells.map (·.1)).Nodup := by
  obtain ⟨p, hp⟩ := insertCells_map_fst h
  rw [hp]
  exact h.columnNames.sublist (List.filter_sublist.map _)

/-- The row that the insertion of a record makes has the stored value of each field in the column
of the field. -/
theorem insertedRow_eq {f : Field} (hf : f ∈ r.fields) :
    insertedRow r chosen self f.column.name = storedValue r chosen self f := by
  have hbound : f ∈ r.insertParams ↔ (r.key.isGenerated && f.column.isPrimaryKey) = false := by
    rw [h.insertParams, List.mem_filter, Bool.not_eq_true']
    exact and_iff_right hf
  rw [insertedRow, newRow, storedValue]
  cases hgenerated : r.key.isGenerated && f.column.isPrimaryKey with
  | false =>
    -- the column is named among the cells, with the parameter of the field
    have hmem := hbound.2 hgenerated
    obtain ⟨k, hnumbered, hargument⟩ := exists_numbered (fun f => self f.name) hmem
    have hcell : (f.column.name, Cell.parameter k) ∈ r.insertCells := by
      rw [insertCells_of_ne_nil (List.ne_nil_of_mem hmem)]
      exact List.mem_map_of_mem hnumbered
    rw [lookup_of_mem (nodup_insertCells h) hcell]
    exact hargument
  | true =>
    -- the column is not named, or named with a default
    rw [if_pos rfl]
    cases hcell : r.insertCells.lookup f.column.name with
    | none => rfl
    | some cell =>
      cases cell with
      | default => rfl
      | parameter k =>
        obtain ⟨before, after, hcells, _⟩ := List.lookup_eq_some_iff.1 hcell
        have hmem : (f.column.name, Cell.parameter k) ∈ r.insertCells := by
          rw [hcells]
          exact List.mem_append_right _ List.mem_cons_self
        obtain ⟨g, hg, hname, _⟩ :=
          exists_of_mem_numbered (fun f => self f.name) (mem_numbered_of_parameter hmem)
        have hgfields : g ∈ r.fields := by
          rw [h.insertParams] at hg
          exact List.mem_of_mem_filter hg
        rw [← eq_of_column_name h hf hgfields hname, hbound, hgenerated] at hg
        cases hg

theorem keyFields_subset {f : Field} (hf : f ∈ r.keyFields) : f ∈ r.fields := by
  rw [h.keyFields] at hf
  exact List.mem_of_mem_filter hf

/-- Assigning the values of a generated key leaves each field with the value stored. -/
theorem assign_keyFields {f : Field} (hf : f ∈ r.fields) :
    assign self (r.keyFields.map fun f => (f.name, storedValue r chosen self f)) f.name
      = storedValue r chosen self f := by
  by_cases hkey : f ∈ r.keyFields
  · have hnodup : (r.keyFields.map (·.name)).Nodup := by
      rw [h.keyFields]
      exact h.fieldNames.sublist (List.filter_sublist.map _)
    exact assign_of_mem _ self hnodup hkey
  · have hname : f.name ∉ r.keyFields.map (·.name) := by
      intro hmem
      obtain ⟨g, hg, heq⟩ := List.mem_map.1 hmem
      rw [List.inj_on_of_nodup_map h.fieldNames (keyFields_subset h hg) hf heq] at hg
      exact hkey hg
    rw [h.keyFields, List.mem_filter, not_and, Bool.not_eq_true] at hkey
    rw [assign_of_notMem _ self hname, storedValue, hkey hf, Bool.and_false]
    rfl

section Relation

variable {rel : Relation V} (hrel : rel.table = r.table)

include hrel

theorem hasColumns_of_subset {names : List String} (hnames : names ⊆ columnNames r.fields) :
    rel.hasColumns names = true := by
  refine List.all_eq_true.2 fun name hname => List.contains_iff_mem.2 ?_
  rw [hrel, h.columns, List.map_map]
  exact hnames hname

/-- A check of the key columns is a check of the key fields. -/
theorem all_columns_eq (p : String → Bool) :
    (rel.table.columns.all fun c => !c.isPrimaryKey || p c.name)
      = r.keyFields.all fun f => p f.column.name := by
  rw [hrel, h.columns, h.keyFields, List.all_map, List.all_filter]
  rfl

/-- The database accepts the insertion of a record. -/
theorem acceptsInsert_insert :
    rel.acceptsInsert r.insert (r.insertParams.map fun f => self f.name) = true := by
  have hreturning : r.insert.returning ⊆ columnNames r.fields := by
    rw [Record.insert, insertScan]
    split
    · rw [h.keyFields]
      exact (List.filter_sublist.map _).subset
    · exact List.nil_subset _
  have hcells : r.insert.cells.map (·.1) ⊆ columnNames r.fields := by
    obtain ⟨p, hp⟩ := insertCells_map_fst h
    rw [Record.insert, hp]
    exact (List.filter_sublist.map _).subset
  have hfits : fits (cellParameters r.insert.cells) (r.insertParams.map fun f => self f.name)
      = true := by
    rw [cellParameters, Record.insert, parameterNumbers_insertCells]
    exact fits_range' (List.length_map _)
  rw [Relation.acceptsInsert, hrel,
    hasColumns_of_subset h hrel (List.append_subset.2 ⟨hcells, hreturning⟩), hfits,
    Bool.and_true, Bool.and_true, Bool.and_eq_true]
  exact ⟨decide_eq_true rfl, decide_eq_true (nodup_insertCells h)⟩

theorem admits_iff (row : Row V) :
    rel.admits row = true ↔ ∀ f ∈ r.keyFields, row f.column.name ≠ none := by
  rw [Relation.admits, all_columns_eq h hrel fun name => (row name).isSome, List.all_eq_true]
  simp only [Option.isSome_iff_ne_none]

variable [DecidableEq V]

/-- A row whose key no row has is free to be inserted. -/
theorem isTaken_of_new {row : Row V}
    (hnew : ∀ other ∈ rel.rows, ∃ f ∈ r.keyFields, other f.column.name ≠ row f.column.name) :
    rel.isTaken row = false := by
  rw [Relation.isTaken, Bool.and_eq_false_iff]
  refine Or.inr (List.any_eq_false.2 fun other hother hsame => ?_)
  obtain ⟨f, hf, hne⟩ := hnew other hother
  rw [Relation.sameKey, all_columns_eq h hrel fun name => equals (other name) (row name),
    List.all_eq_true] at hsame
  exact hne (eq_of_equals (hsame f hf))

/-- The insertion of a record whose key has no NULL and is new adds its row, and gives the key back
if the database generated it. -/
theorem runInsert?_of_new
    (hvalues : ∀ f ∈ r.keyFields, storedValue r chosen self f ≠ none)
    (hnew : ∀ other ∈ rel.rows, ∃ f ∈ r.keyFields,
      other f.column.name ≠ storedValue r chosen self f) :
    rel.runInsert? chosen (r.insert.text .fail) (r.insertParams.map fun f => self f.name)
      = some (if r.key.isGenerated then [r.keyFields.map (storedValue r chosen self)] else [],
          { rel with rows := rel.rows ++ [insertedRow r chosen self] }) := by
  have hrow : ∀ f ∈ r.keyFields,
      insertedRow r chosen self f.column.name = storedValue r chosen self f :=
    fun f hf => insertedRow_eq h chosen self (keyFields_subset h hf)
  have hadmits : rel.admits (insertedRow r chosen self) = true :=
    (admits_iff h hrel _).2 fun f hf => ne_of_eq_of_ne (hrow f hf) (hvalues f hf)
  have hfree : rel.isTaken (insertedRow r chosen self) = false := by
    refine isTaken_of_new h hrel fun other hother => ?_
    obtain ⟨f, hf, hne⟩ := hnew other hother
    exact ⟨f, hf, fun heq => hne (heq.trans (hrow f hf))⟩
  rw [Relation.runInsert?_text,
    Relation.insert?_of_free (acceptsInsert_insert h self hrel) hadmits hfree, Record.insert,
    insertScan]
  cases r.key.isGenerated with
  | false => rfl
  | true =>
    have hne : (columnNames r.keyFields).isEmpty = false := by
      rw [columnNames, List.isEmpty_map, List.isEmpty_eq_false_iff]
      exact h.keyFields_ne_nil
    have hgiven : (columnNames r.keyFields).map (insertedRow r chosen self)
        = r.keyFields.map (storedValue r chosen self) := by
      rw [columnNames, List.map_map]
      exact List.map_congr_left hrow
    simp only [if_true, hne, Bool.false_eq_true, if_false]
    exact congrArg (fun given => some ([given], _)) hgiven

/-- Creating a record whose key has no NULL and is new adds its row, and leaves each field with the
value stored. -/
theorem create_of_new
    (hvalues : ∀ f ∈ r.keyFields, storedValue r chosen self f ≠ none)
    (hnew : ∀ other ∈ rel.rows, ∃ f ∈ r.keyFields,
      other f.column.name ≠ storedValue r chosen self f) :
    ∃ made : Values V,
      create r rel chosen self
        = some (made, { rel with rows := rel.rows ++ [insertedRow r chosen self] })
      ∧ ∀ f ∈ r.fields, made f.name = storedValue r chosen self f := by
  have hrun := runInsert?_of_new h chosen self hrel hvalues hnew
  cases hgenerated : r.key.isGenerated with
  | false =>
    refine ⟨self, ?_, ?_⟩
    · simp only [create, Option.bind_eq_bind, hrun, Option.bind_some, hgenerated]
      rfl
    · intro f hf
      rw [storedValue, hgenerated]
      rfl
  | true =>
    have hscan : r.insertScan = r.keyFields := by rw [insertScan, if_pos hgenerated]
    refine ⟨assign self (r.keyFields.map fun f => (f.name, storedValue r chosen self f)), ?_,
      fun f hf => assign_keyFields h chosen self hf⟩
    simp only [create, Option.bind_eq_bind, hrun, Option.bind_some, hgenerated, if_true, oneRow?,
      hscan, readRow?_map]
    rfl

/-- Creating a record with NULL in its key fails. -/
theorem create_of_null {f : Field} (hf : f ∈ r.keyFields)
    (hnull : storedValue r chosen self f = none) : create r rel chosen self = none := by
  have hrefused : rel.admits (insertedRow r chosen self) = false := by
    refine Bool.eq_false_iff.2 fun hadmits => (admits_iff h hrel _).1 hadmits f hf ?_
    exact (insertedRow_eq h chosen self (keyFields_subset h hf)).trans hnull
  rw [create, Relation.runInsert?_text, Relation.insert?_of_not_admits hrefused]
  rfl

omit h hrel in
/-- A row meets conditions on numbered fields just if it has the values of these fields. -/
theorem meets_numbered {fields : List Field} (value : Field → Option V) {s : Select}
    (hconditions : s.conditions = numbered fields) (row : Row V) :
    Relation.meets s (fields.map value) row
      = fields.all fun f => equals (row f.column.name) (value f) := by
  rw [Bool.eq_iff_iff, Relation.meets, hconditions, List.all_eq_true, List.all_eq_true]
  constructor
  · intro hmeets f hf
    obtain ⟨k, hnumbered, hargument⟩ := exists_numbered value hf
    rw [← hargument]
    exact hmeets (f.column.name, k) hnumbered
  · rintro hall ⟨name, k⟩ hnumbered
    obtain ⟨f, hf, rfl, hargument⟩ := exists_of_mem_numbered value hnumbered
    have hequal := hall f hf
    rw [← hargument] at hequal
    exact hequal

omit [DecidableEq V] in
/-- The database accepts the selection of a record by its key. -/
theorem acceptsSelect_select {s : Select} (hs : r.select? = some s) (value : Field → Option V) :
    rel.acceptsSelect s (r.keyFields.map value) = true := by
  rw [select?_of_hasKey h.keyed] at hs
  cases hs
  have hsubset : columnNames r.keyFields ⊆ columnNames r.fields := by
    rw [h.keyFields]
    exact (List.filter_sublist.map _).subset
  have hnamed : rel.hasColumns (columnNames r.fields ++ columnNames r.keyFields) = true :=
    hasColumns_of_subset h hrel (List.append_subset.2 ⟨List.Subset.refl _, hsubset⟩)
  rw [Relation.acceptsSelect, numbered_map_fst, numbered_map_snd, hnamed, hrel,
    fits_range' (List.length_map _), Bool.and_true, Bool.and_true]
  exact decide_eq_true rfl

/-- The selection by the key of a row gives that row and no other. -/
theorem runSelect?_of_stored {value : Field → Option V} {row : Row V} {others : List (Row V)}
    (hrows : rel.rows = others ++ [row])
    (hrow : ∀ f ∈ r.fields, row f.column.name = value f)
    (hvalues : ∀ f ∈ r.keyFields, value f ≠ none)
    (hnew : ∀ other ∈ others, ∃ f ∈ r.keyFields, other f.column.name ≠ value f)
    {s : Select} (hs : r.select? = some s) :
    rel.runSelect? s.text (r.keyFields.map value) = some [r.fields.map value] := by
  have haccepts := acceptsSelect_select h hrel hs value
  obtain ⟨hcolumns, hconditions⟩ : s.columns = columnNames r.fields
      ∧ s.conditions = numbered r.keyFields := by
    rw [select?_of_hasKey h.keyed] at hs
    cases hs
    exact ⟨rfl, rfl⟩
  obtain ⟨hcolumns_ne, hconditions_ne⟩ := select_ne_nil h.keyFields_ne_nil hs
  -- no other row meets the conditions, since one of its key columns differs
  have hothers : others.filter (Relation.meets s (r.keyFields.map value)) = [] := by
    refine List.filter_eq_nil_iff.2 fun other hother hmeets => ?_
    rw [meets_numbered value hconditions, List.all_eq_true] at hmeets
    obtain ⟨f, hf, hne⟩ := hnew other hother
    exact hne (eq_of_equals (hmeets f hf))
  -- the row itself meets them: its key has no NULL, which equals nothing
  have hmeets : Relation.meets s (r.keyFields.map value) row = true := by
    rw [meets_numbered value hconditions, List.all_eq_true]
    intro f hf
    rw [hrow f (keyFields_subset h hf)]
    exact equals_self (hvalues f hf)
  have hselected : s.columns.map row = r.fields.map value := by
    rw [hcolumns, columnNames, List.map_map]
    exact List.map_congr_left hrow
  rw [Relation.runSelect?_text hcolumns_ne hconditions_ne, Relation.select?, if_pos haccepts,
    hrows, List.filter_append, hothers, List.filter_cons_of_pos hmeets, List.filter_nil,
    List.nil_append, List.map_singleton, hselected]

/-- The row of a key is what fetching by that key gives, field by field. -/
theorem getByKey_of_stored {value : Field → Option V} {row : Row V} {others : List (Row V)}
    (hrows : rel.rows = others ++ [row])
    (hrow : ∀ f ∈ r.fields, row f.column.name = value f)
    (hvalues : ∀ f ∈ r.keyFields, value f ≠ none)
    (hnew : ∀ other ∈ others, ∃ f ∈ r.keyFields, other f.column.name ≠ value f) :
    getByKey r rel (r.keyFields.map value)
      = some (some (r.fields.map fun f => (f.name, value f))) := by
  have hlength : (r.selectParams.map (·.1)).length = (r.keyFields.map value).length := by
    rw [selectParams_map_fst]
    simp only [List.length_map, List.length_range]
  have hargs := mapM_lookup_zip (nodup_selectParams r) hlength
  have hs := select?_of_hasKey h.keyed
  have hrun := runSelect?_of_stored h hrel hrows hrow hvalues hnew hs
  have hfilled := readRow?_map value r.fields
  rw [getByKey, if_pos hlength, hargs, hs]
  simp only [Option.bind_eq_bind, Option.bind_some, hrun, optionalRow?, selectScan, hfilled]
  rfl

end Relation

end Unambiguous

/-- A record that is created under a new key is found by that key, field by field as `create` left
it. The insertion fails only if the key has NULL in it. -/
theorem getByKey_create [DecidableEq V] (rules : RuleSet) (policy : KeyPolicy) (t : Table)
    {r : Record} (hr : ofTable rules policy t = r) (hkey : r.hasKey = true)
    (hcolumns : (t.columns.map (·.name)).Nodup) (hfields : (r.fields.map (·.name)).Nodup)
    (rel : Relation V) (hrel : rel.table = t) (chosen : Row V) (self : Values V)
    (hnew : ∀ other ∈ rel.rows, ∃ f ∈ r.keyFields,
      other f.column.name ≠ storedValue r chosen self f) :
    ((∃ f ∈ r.keyFields, storedValue r chosen self f = none) → create r rel chosen self = none)
    ∧ ((∀ f ∈ r.keyFields, storedValue r chosen self f ≠ none) →
      ∃ made after, create r rel chosen self = some (made, after)
        ∧ (∀ f ∈ r.fields, made f.name = storedValue r chosen self f)
        ∧ getByKey r after (r.keyFields.map fun f => made f.name)
          = some (some (r.fields.map fun f => (f.name, made f.name)))) := by
  have h : Unambiguous r := by
    subst hr
    exact unambiguous_ofTable rules policy hkey hcolumns hfields
  have htable : rel.table = r.table := by
    rw [hrel, ← hr, ofTable]
  constructor
  · rintro ⟨f, hf, hnull⟩
    exact create_of_null h chosen self htable hf hnull
  intro hvalues
  obtain ⟨made, hcreate, hmade⟩ := create_of_new h chosen self htable hvalues hnew
  refine ⟨made, _, hcreate, hmade, ?_⟩
  have hkeyed : r.keyFields.map (fun f => made f.name)
      = r.keyFields.map (storedValue r chosen self) :=
    List.map_congr_left fun f hf => hmade f (keyFields_subset h hf)
  have hfilled : r.fields.map (fun f => (f.name, made f.name))
      = r.fields.map fun f => (f.name, storedValue r chosen self f) :=
    List.map_congr_left fun f hf => congrArg (Prod.mk f.name) (hmade f hf)
  have hafter : ({ rel with rows := rel.rows ++ [insertedRow r chosen self] } : Relation V).table
      = r.table := htable
  rw [hkeyed, hfilled]
  exact getByKey_of_stored h hafter rfl (fun f hf => insertedRow_eq h chosen self hf) hvalues hnew

/-- A table whose key is generated and is not its first column. -/
def notes : Table where
  schema := "public"
  name := "notes"
  kind := "r"
  columns := [
    { ordinal := 1, name := "Body", dataType := "text", ddlType := "text", notNull := false,
      defaultValue := none, isPrimaryKey := false, identity := .none },
    { ordinal := 2, name := "id", dataType := "integer", ddlType := "serial", notNull := true,
      defaultValue := none, isPrimaryKey := true, identity := .none }]

/-- The record of the notes, whatever the rules are that type its fields. -/
def noteRecord : Record :=
  ofTable (.ofFallback "Any") {} notes

/-- With a note 3 there already, a note for which the database chooses 7 is created and found. -/
theorem getByKey_create_note :
    ∃ made after, create noteRecord ⟨notes, [fun _ => some 3]⟩ (fun _ => some 7) (fun _ => some 1)
        = some (made, after)
      ∧ getByKey noteRecord after (noteRecord.keyFields.map fun f => made f.name)
        = some (some (noteRecord.fields.map fun f => (f.name, made f.name))) := by
  have h := getByKey_create (.ofFallback "Any") {} notes
    (rfl : _ = noteRecord) (by decide +kernel) (by decide +kernel) (by decide +kernel)
    ⟨notes, [fun _ => some 3]⟩ rfl (fun _ => some 7) (fun _ => some 1) (by decide +kernel)
  obtain ⟨made, after, hcreate, _, hfetched⟩ := h.2 (by decide +kernel)
  exact ⟨made, after, hcreate, hfetched⟩

end RowBindings.Database
