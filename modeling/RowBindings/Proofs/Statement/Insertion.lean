import RowBindings.Proofs.Model.Key
import RowBindings.Proofs.Statement.Grammar

/-!
# The insertion of a record, read back

What the database sees in the insertion generated for a table. Names in it are free text, so the
statement is not looked at as printed but as read by `Insert.ofText?`, which knows only the lexical
rules and the grammar.
-/

namespace RowBindings

namespace Statement

/-- An insertion up to the clause about rows that are there already. -/
def Insert.headText (s : Insert) : List Char :=
  "INSERT INTO ".toList ++ nameText s.table.toList ++ s.valuesText

theorem insertText_eq_headText (s : Insert) (onConflict : OnConflict) :
    (s.text onConflict).toList = s.headText ++ onConflict.text ++ s.returningText :=
  insertText_toList s onConflict

theorem onConflictText_fail : OnConflict.fail.text = [] := rfl

theorem returningText_of_nil {s : Insert} (h : s.returning = []) : s.returningText = [] := by
  rw [Insert.returningText, h]

/-- Up to there, an insertion is one that gives nothing back. -/
theorem insert_ofText?_headText (s : Insert) :
    Insert.ofText? (String.ofList s.headText) = some ({ s with returning := [] }, .fail) := by
  have h := insert_ofText?_text { s with returning := [] } .fail
  rw [Insert.ofText?, insertText_eq_headText, onConflictText_fail, returningText_of_nil rfl,
    List.append_nil, List.append_nil] at h
  rw [Insert.ofText?, String.toList_ofList]
  exact h

end Statement

namespace Model.Record

open Catalog TypeMap Statement

/-- The columns of the key of a table, in the order of the catalog. -/
def keyColumnNames (t : Table) : List String :=
  (t.columns.filter (·.isPrimaryKey)).map (·.name)

/-- What the insertion of a record has to say. -/
structure IsInsertionOf (s : Insert) (r : Record) : Prop where
  table : s.table = r.table.name
  /-- Each bound field has its column and the next number, counted from one. -/
  bound : r.insertParams ≠ [] →
    s.cells.map (·.1) = columnNames r.insertParams
      ∧ s.cells.map (·.2) = (List.range' 1 r.insertParams.length).map Cell.parameter
  /-- With nothing to bind, the database is asked for a value of each key column. -/
  defaulted : r.insertParams = [] → r.key.isGenerated = true →
    s.cells.map (·.1) = keyColumnNames r.table ∧ ∀ cell ∈ s.cells, cell.2 = .default
  /-- Without a generated key there is something to bind unless there are no columns at all. -/
  columnless : r.insertParams = [] → r.key.isGenerated = false →
    r.table.columns = [] ∧ s.cells = []
  returning : r.key.isGenerated = true → s.returning = keyColumnNames r.table
  /-- Something is given back just if the key is generated. -/
  returning_iff : s.returning ≠ [] ↔ r.key.isGenerated = true

theorem returning_of_not_isGenerated {s : Insert} {r : Record} (h : IsInsertionOf s r)
    (hgenerated : r.key.isGenerated = false) : s.returning = [] := by
  by_cases hnil : s.returning = []
  · exact hnil
  · rw [h.returning_iff.1 hnil] at hgenerated
    cases hgenerated

variable (rules : RuleSet) (policy : KeyPolicy) (t : Table)

theorem columnNames_keyFields :
    columnNames (ofTable rules policy t).keyFields = keyColumnNames t := by
  rw [keyFields_ofTable, columnNames_ofTable, keyColumnNames]

theorem keyColumnNames_ne_nil_iff :
    keyColumnNames t ≠ [] ↔ (ofTable rules policy t).hasKey = true := by
  rw [← columnNames_keyFields rules policy, columnNames, Ne, List.map_eq_nil_iff]
  exact keyFields_ne_nil_iff rules policy t

/-- The names and the numbers of numbered fields, apart. -/
theorem numbered_map_fst (fields : List Field) :
    (numbered fields).map (·.1) = columnNames fields :=
  List.zipIdx_map_fst 1 (columnNames fields)

theorem numbered_map_snd (fields : List Field) :
    (numbered fields).map (·.2) = List.range' 1 fields.length := by
  have h := List.zipIdx_map_snd 1 (columnNames fields)
  rwa [columnNames, List.length_map] at h

/-- The number of a field is its position, counted from one. -/
theorem mem_numbered_iff {fields : List Field} {name : String} {k : Nat} :
    (name, k) ∈ numbered fields
      ↔ 1 ≤ k ∧ ∃ f, fields[k - 1]? = some f ∧ f.column.name = name := by
  rw [numbered, columnNames, List.mk_mem_zipIdx_iff_le_and_getElem?_sub, List.getElem?_map,
    Option.map_eq_some_iff]

theorem insertCells_of_ne_nil {r : Record} (h : r.insertParams ≠ []) :
    r.insertCells = (numbered r.insertParams).map fun (name, k) => (name, .parameter k) := by
  have hempty : r.insertParams.isEmpty = false := List.isEmpty_eq_false_iff.2 h
  rw [insertCells, hempty, Bool.false_and]
  rfl

/-- A parameter of the insertion has the number of its field. -/
theorem mem_numbered_of_parameter {r : Record} {name : String} {k : Nat}
    (h : (name, Cell.parameter k) ∈ r.insertCells) : (name, k) ∈ numbered r.insertParams := by
  rw [insertCells] at h
  split at h
  · obtain ⟨_, _, heq⟩ := List.mem_map.1 h
    cases heq
  · obtain ⟨_, hnumbered, heq⟩ := List.mem_map.1 h
    cases heq
    exact hnumbered

theorem isInsertionOf_insert :
    IsInsertionOf (ofTable rules policy t).insert (ofTable rules policy t) where
  table := rfl
  bound := by
    intro hne
    rw [insert, insertCells_of_ne_nil hne, List.map_map, List.map_map]
    refine ⟨numbered_map_fst _, ?_⟩
    rw [← numbered_map_snd, List.map_map]
    rfl
  defaulted := by
    intro hnil hgenerated
    have hcells : (ofTable rules policy t).insertCells
        = (keyColumnNames t).map fun name => (name, .default) := by
      rw [insertCells, hnil, hgenerated, columnNames_keyFields]
      rfl
    rw [insert, hcells, List.map_map]
    refine ⟨List.map_id _, ?_⟩
    intro cell hcell
    obtain ⟨name, _, rfl⟩ := List.mem_map.1 hcell
    rfl
  columnless := by
    intro hnil hgenerated
    have hfields := insertParams_of_not_isGenerated rules policy t hgenerated
    rw [hnil] at hfields
    refine ⟨List.map_eq_nil_iff.1 hfields.symm, ?_⟩
    rw [insert, insertCells, hnil, hgenerated]
    rfl
  returning := by
    intro hgenerated
    rw [insert, insertScan, if_pos hgenerated, columnNames_keyFields]
    rfl
  returning_iff := by
    rw [insert, insertScan]
    cases hgenerated : (ofTable rules policy t).key.isGenerated with
    | false => exact ⟨fun h => absurd rfl h, fun h => absurd h Bool.false_ne_true⟩
    | true =>
      rw [if_pos rfl, columnNames_keyFields]
      exact iff_of_true ((keyColumnNames_ne_nil_iff rules policy t).2
        (hasKey_of_isGenerated rules policy t hgenerated)) rfl

theorem parameterNumbers_parameters (numbers : List Nat) :
    parameterNumbers (numbers.map Token.parameter) = numbers := by
  induction numbers with
  | nil => rfl
  | cons k numbers ih => rw [List.map_cons, parameterNumbers_parameter, ih]

theorem parameterNumbers_defaults (names : List String) :
    parameterNumbers (names.map fun _ => Cell.default.token) = [] := by
  induction names with
  | nil => rfl
  | cons name names ih => exact ih

/-- The parameters of the insertion are numbered from one without gaps. -/
theorem parameterNumbers_insertCells (r : Record) :
    parameterNumbers (r.insertCells.map (·.2.token)) = List.range' 1 r.insertParams.length := by
  rw [insertCells]
  split
  · next h =>
    rw [Bool.and_eq_true, List.isEmpty_iff] at h
    rw [List.map_map, h.1]
    exact parameterNumbers_defaults _
  · rw [List.map_map, ← numbered_map_snd]
    have h := parameterNumbers_parameters ((numbered r.insertParams).map (·.2))
    rwa [List.map_map] at h

/-- What the database sees in the two texts that insert a record: the insertion `s`, in texts that
differ in one clause just before the clause about what is given back. -/
structure ReadsBack (r : Record) (s : Insert) (head clause : List Char) : Prop where
  insertion : IsInsertionOf s r
  failing : Insert.ofText? (r.insert.text .fail) = some (s, .fail)
  unlessConflict : Insert.ofText? (r.insert.text .doNothing) = some (s, .doNothing)
  /-- The parameters are numbered from one without gaps, and there are no others. -/
  parameters : ∀ onConflict, ∃ ts, tokens? (r.insert.text onConflict).toList = some ts
    ∧ parameterNumbers ts = List.range' 1 r.insertParams.length
  text : (r.insert.text .fail).toList = head ++ clause
  textUnlessConflict :
    (r.insert.text .doNothing).toList = head ++ " ON CONFLICT DO NOTHING".toList ++ clause
  /-- Before the clauses stands the insertion itself. -/
  headReads : Insert.ofText? (String.ofList head) = some ({ s with returning := [] }, .fail)
  /-- The last clause gives back the key that is generated, and stands only if there is one. -/
  clauseReads : tokens? clause = some (if r.key.isGenerated then
    keyword "RETURNING" :: namesTokens (keyColumnNames r.table) else [])
  clauseless : r.key.isGenerated = false → clause = []

/-- Each insertion of a record reads back as the one intended, whatever its names are. -/
theorem insertText_reads_back :
    ∃ (s : Insert) (head clause : List Char),
      ReadsBack (ofTable rules policy t) s head clause := by
  have hinsertion := isInsertionOf_insert rules policy t
  generalize hr : ofTable rules policy t = r at hinsertion
  refine ⟨r.insert, r.insert.headText, r.insert.returningText, ?_⟩
  exact {
    insertion := hinsertion
    failing := insert_ofText?_text r.insert .fail
    unlessConflict := insert_ofText?_text r.insert .doNothing
    parameters := by
      intro onConflict
      exact ⟨_, tokens?_insertText r.insert onConflict,
        (parameterNumbers_insertTokens r.insert onConflict).trans (parameterNumbers_insertCells r)⟩
    text := by rw [insertText_eq_headText, onConflictText_fail, List.append_nil]
    textUnlessConflict := by rw [insertText_eq_headText, onConflictText_doNothing]
    headReads := insert_ofText?_headText r.insert
    clauseReads := by
      rw [tokens?_returningText, Insert.returningTokens]
      cases hgenerated : r.key.isGenerated with
      | false => rw [returning_of_not_isGenerated hinsertion hgenerated]; rfl
      | true =>
        have hne := hinsertion.returning_iff.2 hgenerated
        have hnames := hinsertion.returning hgenerated
        rw [hnames] at hne ⊢
        split
        · next hnil => exact absurd hnil hne
        · rfl
    clauseless := fun hgenerated =>
      returningText_of_nil (returning_of_not_isGenerated hinsertion hgenerated) }

end Model.Record

end RowBindings
