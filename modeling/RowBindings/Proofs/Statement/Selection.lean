import RowBindings.Proofs.Statement.Insertion
import RowBindings.Template.Helpers

/-!
# The selection of a record, read back

What the database sees in the selection generated for a table with a key: the names of all columns
and one condition for each key column, numbered in the order of the catalog. The parameters of the
function that sends the selection, and the fields that it fills, come in the same order.
-/

namespace RowBindings.Model.Record

open Catalog TypeMap Statement

/-! ## The selection of a table -/

/-- The selection of all columns by those of the key, which are compared in the order of the
catalog. -/
def keySelection (t : Table) : Select where
  columns := t.columns.map (·.name)
  table := t.name
  conditions := (keyColumnNames t).zipIdx 1

/-- A text selects the columns of a table by its key. -/
structure IsSelectionText (t : Table) (text : String) : Prop where
  /-- Each token is a name of a column or of the table, or is part of the frame around them. -/
  tokens : ∃ (columns : List Token) (table : Token) (key : List Token),
    columns.map nameOf? = (t.columns.map (·.name)).map some
      ∧ nameOf? table = some t.name
      ∧ key.map nameOf? = (keyColumnNames t).map some
      ∧ tokens? text.toList = some (keyword "SELECT" :: itemTokens columns
        ++ [keyword "FROM", table, keyword "WHERE"]
        ++ [keyword "AND"].intercalate
          ((key.zipIdx 1).map fun (name, k) => [name, .mark '=', .parameter k]))
  reads : Select.ofText? text = some (keySelection t)

/-- What there is to select the record of a table by its key. -/
structure SelectsByKey (helpers : Template.Helpers) (rules : RuleSet) (t : Table) (r : Record) :
    Prop where
  /-- There is no selection just if no column belongs to the key. -/
  text_eq_none_iff : helpers.selectText r = none ↔ ∀ c ∈ t.columns, c.isPrimaryKey = false
  text : ∀ text, helpers.selectText r = some text → IsSelectionText t text
  /-- The function has a parameter for each key column, in order and of the type of the column. -/
  signature : helpers.selectSignature r = (t.columns.filter (·.isPrimaryKey)).zipIdx.map
    fun (c, i) => ("pk" ++ toString i, rules.resolve c.dataType c.notNull)
  /-- The same parameters are bound to the conditions. -/
  bound : helpers.selectParams r
    = (List.range (keyColumnNames t).length).map fun i => "pk" ++ toString i
  /-- The fields filled stand for the columns selected, in order. -/
  filled : helpers.selectScan r = t.columns.map (fieldOf rules)

/-! ## Its text -/

theorem map_nameOf?_nameToken (names : List String) :
    (names.map fun name => nameToken name.toList).map nameOf? = names.map some := by
  rw [List.map_map]
  exact List.map_congr_left fun name _ => nameOf?_nameToken name

/-- Numbering names and then taking their tokens is numbering the tokens. -/
theorem map_conditionTokens_zipIdx (names : List String) (start : Nat) :
    (names.zipIdx start).map conditionTokens
      = ((names.map fun name => nameToken name.toList).zipIdx start).map
        fun (name, k) => [name, .mark '=', .parameter k] := by
  rw [List.zipIdx_map, List.map_map]
  rfl

variable (rules : RuleSet) (policy : KeyPolicy) (t : Table)

theorem isSelectionText_keySelection (hkey : keyColumnNames t ≠ []) :
    IsSelectionText t (keySelection t).text where
  tokens := by
    refine ⟨(t.columns.map (·.name)).map fun name => nameToken name.toList,
      nameToken t.name.toList, (keyColumnNames t).map fun name => nameToken name.toList,
      map_nameOf?_nameToken _, nameOf?_nameToken t.name, map_nameOf?_nameToken _, ?_⟩
    rw [tokens?_selectText, ← map_conditionTokens_zipIdx, Select.tokens, namesTokens]
    rfl
  reads := by
    -- a key column is a column, so that neither list of the statement is empty
    have hcolumns : t.columns ≠ [] := by
      intro hnil
      rw [keyColumnNames, hnil] at hkey
      exact hkey rfl
    exact select_ofText?_text (mt List.map_eq_nil_iff.1 hcolumns) (mt List.zipIdx_eq_nil_iff.1 hkey)

theorem keyColumnNames_eq_nil_iff :
    keyColumnNames t = [] ↔ ∀ c ∈ t.columns, c.isPrimaryKey = false := by
  rw [keyColumnNames, List.map_eq_nil_iff, List.filter_eq_nil_iff]
  simp only [Bool.not_eq_true]

/-- The record of a table is selected by the key if the table has one. -/
theorem select?_ofTable :
    (ofTable rules policy t).select?
      = if keyColumnNames t = [] then none else some (keySelection t) := by
  have hkey := keyColumnNames_ne_nil_iff rules policy t
  by_cases hnil : keyColumnNames t = []
  · have hhasKey : ¬ (ofTable rules policy t).hasKey = true := fun h => hkey.2 h hnil
    rw [if_pos hnil, select?, if_neg hhasKey]
  · have hcolumns : columnNames (ofTable rules policy t).fields = t.columns.map (·.name) :=
      columnNames_ofTable rules t.columns
    rw [if_neg hnil, select?_of_hasKey (hkey.1 hnil), hcolumns, numbered, columnNames_keyFields]
    rfl

/-- The record of a table is selected by its key, if it has one: the text splits into the names of
all columns, that of the table and the numbered conditions on the key columns, whatever the names
are, and parameters and fields are aligned with it. -/
theorem selectText_reads_back :
    SelectsByKey {} rules t (ofTable rules policy t) where
  text_eq_none_iff := by
    rw [← keyColumnNames_eq_nil_iff]
    show (ofTable rules policy t).select?.map Select.text = none ↔ _
    rw [select?_ofTable]
    split
    · exact iff_of_true rfl ‹_›
    · exact iff_of_false (Option.some_ne_none _) ‹_›
  text := by
    intro text htext
    change (ofTable rules policy t).select?.map Select.text = some text at htext
    rw [select?_ofTable] at htext
    split at htext
    · cases htext
    · cases htext
      exact isSelectionText_keySelection t ‹_›
  signature := by
    show (ofTable rules policy t).selectParams = _
    rw [selectParams, keyFields_ofTable, List.zipIdx_map, List.map_map]
    rfl
  bound := by
    show (ofTable rules policy t).selectParams.map (·.1) = _
    rw [selectParams_map_fst, ← columnNames_keyFields rules policy, columnNames, List.length_map]
    rfl
  filled := rfl

end RowBindings.Model.Record
