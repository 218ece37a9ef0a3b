import RowBindings.Statement.OfRecord

/-!
# The key of a record

A record lists its key by position, so that every use of the key goes through indices. For the
record of a table the indices and the columns agree: the key fields are the fields of the key
columns, and the fields bound on insertion are all fields or, for a generated key, the others.
-/

namespace RowBindings

/-! ## Positions and names in lists -/

/-- A condition on the elements keeps the same elements when they are paired with positions. -/
theorem filter_zipIdx_map_fst {α : Type} (p : α → Bool) (xs : List α) (start : Nat) :
    ((xs.zipIdx start).filter fun (x, _) => p x).map (·.1) = xs.filter p := by
  have h := List.filter_map (f := Prod.fst) (p := p) (l := xs.zipIdx start)
  rw [List.zipIdx_map_fst] at h
  exact h.symm

/-- The elements at the positions where a condition holds are those that satisfy it. -/
theorem filterMap_getElem?_positions {α : Type} (p : α → Bool) (before xs : List α) :
    (((xs.zipIdx before.length).filter fun (x, _) => p x).map (·.2)).filterMap
        ((before ++ xs)[·]?)
      = xs.filter p := by
  -- what stands before only shifts the positions
  induction xs generalizing before with
  | nil => rfl
  | cons x xs ih =>
    have hnext := ih (before ++ [x])
    rw [List.length_append, List.length_singleton, List.append_assoc, List.singleton_append]
      at hnext
    have hget : (before ++ x :: xs)[before.length]? = some x := by simp
    rw [List.zipIdx_cons, List.filter_cons, List.filter_cons]
    by_cases hx : p x = true
    · rw [if_pos hx, if_pos hx, List.map_cons, List.filterMap_cons_some hget, hnext]
    · rw [if_neg hx, if_neg hx, hnext]

/-- What is listed by names of its own is found by them. -/
theorem lookup_of_mem {α β : Type} [DecidableEq α] {entries : List (α × β)} {a : α} {b : β}
    (hnodup : (entries.map (·.1)).Nodup) (h : (a, b) ∈ entries) : entries.lookup a = some b := by
  induction entries with
  | nil => cases h
  | cons entry entries ih =>
    rw [List.map_cons, List.nodup_cons] at hnodup
    rw [List.lookup_cons]
    rcases List.mem_cons.1 h with rfl | h
    · rw [beq_self_eq_true]
    · have hne : a ≠ entry.1 := fun heq => hnodup.1 (heq ▸ List.mem_map_of_mem h)
      rw [beq_false_of_ne hne]
      exact ih hnodup.2 h

/-! ## The key of a table -/

namespace Catalog.PrimaryKey

variable (policy : KeyPolicy) (columns : List Column)

/-- The positions of a key are those of the key columns. -/
theorem contains_ofColumns (index : Nat) :
    (ofColumns policy columns).contains index = columns[index]?.any (·.isPrimaryKey) := by
  rw [Bool.eq_iff_iff, PrimaryKey.contains, List.contains_iff_mem, Option.any_eq_true]
  simp only [ofColumns, List.mem_map, List.mem_filter]
  constructor
  · rintro ⟨⟨c, i⟩, ⟨hmem, hkey⟩, rfl⟩
    exact ⟨c, List.mem_zipIdx_iff_getElem?.1 hmem, hkey⟩
  · rintro ⟨c, hget, hkey⟩
    exact ⟨(c, index), ⟨List.mem_zipIdx_iff_getElem?.2 hget, hkey⟩, rfl⟩

/-- A position of a key is one of the table. -/
theorem lt_of_mem_indices {index : Nat} (h : index ∈ (ofColumns policy columns).indices) :
    index < columns.length := by
  have hcontains := contains_ofColumns policy columns index
  rw [PrimaryKey.contains, List.contains_iff_mem.2 h] at hcontains
  rcases Nat.lt_or_ge index columns.length with hlt | hge
  · exact hlt
  · rw [List.getElem?_eq_none hge] at hcontains
    cases hcontains

theorem isEmpty_ofColumns :
    (ofColumns policy columns).isEmpty = (columns.filter (·.isPrimaryKey)).isEmpty := by
  rw [← filter_zipIdx_map_fst (·.isPrimaryKey) columns 0, isEmpty, ofColumns, List.isEmpty_map,
    List.isEmpty_map]

/-- A generated key has a column. -/
theorem isEmpty_of_isGenerated (h : (ofColumns policy columns).isGenerated) :
    (ofColumns policy columns).isEmpty = false := by
  simp only [ofColumns, Bool.and_eq_true, Bool.not_eq_true'] at h
  rw [isEmpty, ofColumns, List.isEmpty_map, h.1]

end Catalog.PrimaryKey

/-! ## The record of a table -/

namespace Model.Record

open Catalog TypeMap Statement

variable (rules : RuleSet) (policy : KeyPolicy) (t : Table)

/-- A field stands for the column at its position. -/
theorem columnNames_ofTable (columns : List Column) :
    columnNames (columns.map (fieldOf rules)) = columns.map (·.name) :=
  List.map_map

/-- It carries that column. -/
theorem map_column_fieldOf (columns : List Column) :
    (columns.map (fieldOf rules)).map (·.column) = columns := by
  rw [List.map_map]
  exact List.map_id columns

/-- The fields of the key are those of the key columns, in the order of the columns. -/
theorem keyFields_ofTable :
    (ofTable rules policy t).keyFields
      = (t.columns.filter (·.isPrimaryKey)).map (fieldOf rules) := by
  have hpositions := filterMap_getElem?_positions (·.isPrimaryKey) [] t.columns
  rw [← hpositions, List.map_filterMap, keyFields]
  have hget : (fun i => (ofTable rules policy t).fields[i]?)
      = fun i => t.columns[i]?.map (fieldOf rules) := funext fun _ => List.getElem?_map
  rw [hget]
  rfl

/-- Every position of the key has its field. -/
theorem map_indices_eq_keyFields :
    (ofTable rules policy t).key.indices.map ((ofTable rules policy t).fields[·]?)
      = (ofTable rules policy t).keyFields.map some := by
  have hfield : ∀ i ∈ (ofTable rules policy t).key.indices,
      ∃ f, (ofTable rules policy t).fields[i]? = some f := by
    intro i hi
    have hlt : i < (ofTable rules policy t).fields.length := by
      rw [ofTable, List.length_map]
      exact PrimaryKey.lt_of_mem_indices policy t.columns hi
    exact ⟨_, List.getElem?_eq_getElem hlt⟩
  rw [keyFields]
  generalize (ofTable rules policy t).key.indices = indices at hfield
  induction indices with
  | nil => rfl
  | cons i indices ih =>
    obtain ⟨⟨f, hf⟩, hrest⟩ := List.forall_mem_cons.1 hfield
    rw [List.map_cons, List.filterMap_cons_some hf, List.map_cons, ih hrest, hf]

theorem keyFields_eq_filter :
    (ofTable rules policy t).keyFields
      = (ofTable rules policy t).fields.filter (·.column.isPrimaryKey) := by
  rw [keyFields_ofTable, ofTable, List.filter_map]
  rfl

/-- The fields bound on insertion: those that the database does not generate. -/
theorem insertParams_ofTable :
    (ofTable rules policy t).insertParams
      = (ofTable rules policy t).fields.filter fun f =>
        !((ofTable rules policy t).key.isGenerated && f.column.isPrimaryKey) := by
  have hcontains : ∀ entry ∈ (ofTable rules policy t).fields.zipIdx,
      (ofTable rules policy t).key.contains entry.2 = entry.1.column.isPrimaryKey := by
    rintro ⟨f, i⟩ hmem
    have hget := List.mem_zipIdx_iff_getElem?.1 hmem
    rw [ofTable, List.getElem?_map, Option.map_eq_some_iff] at hget
    obtain ⟨c, hc, rfl⟩ := hget
    rw [ofTable, PrimaryKey.contains_ofColumns, hc]
    rfl
  have hfilter := List.filter_congr fun entry hentry =>
    congrArg (fun isKey => !((ofTable rules policy t).key.isGenerated && isKey))
      (hcontains entry hentry)
  rw [insertParams, hfilter]
  exact filter_zipIdx_map_fst
    (fun f : Field => !((ofTable rules policy t).key.isGenerated && f.column.isPrimaryKey)) _ 0

/-- Every field is bound unless the key is generated. -/
theorem insertParams_of_not_isGenerated (h : (ofTable rules policy t).key.isGenerated = false) :
    (ofTable rules policy t).insertParams = (ofTable rules policy t).fields := by
  rw [insertParams_ofTable, h]
  exact List.filter_eq_self.2 fun _ _ => rfl

/-- A record has a key if one of its columns belongs to one. -/
theorem hasKey_ofTable :
    (ofTable rules policy t).hasKey = !(t.columns.filter (·.isPrimaryKey)).isEmpty := by
  rw [hasKey, ofTable, PrimaryKey.isEmpty_ofColumns]

theorem keyFields_ne_nil_iff :
    (ofTable rules policy t).keyFields ≠ [] ↔ (ofTable rules policy t).hasKey = true := by
  rw [keyFields_ofTable, hasKey_ofTable, Bool.not_eq_true', List.isEmpty_eq_false_iff,
    Ne, List.map_eq_nil_iff]

/-- The selection by the key of a record that has one. -/
theorem select?_of_hasKey {r : Record} (h : r.hasKey = true) :
    r.select? = some
      { columns := columnNames r.fields
        table := r.table.name
        conditions := numbered r.keyFields } := by
  rw [select?, if_pos h, selectScan]

/-- A selection by a key that has fields names at least one column to give and one to compare. -/
theorem select_ne_nil {r : Record} (hkeyFields : r.keyFields ≠ []) {s : Select}
    (hs : r.select? = some s) : s.columns ≠ [] ∧ s.conditions ≠ [] := by
  have hfields : r.fields ≠ [] := by
    intro hnil
    refine hkeyFields (List.filterMap_eq_nil_iff.2 fun i _ => ?_)
    rw [hnil, List.getElem?_nil]
  have hnames : columnNames r.keyFields ≠ [] := mt List.map_eq_nil_iff.1 hkeyFields
  rw [select?] at hs
  split at hs
  · cases hs
    exact ⟨mt List.map_eq_nil_iff.1 hfields, mt List.zipIdx_eq_nil_iff.1 hnames⟩
  · cases hs

theorem selectParams_map_fst (r : Record) :
    r.selectParams.map (·.1) = (List.range r.keyFields.length).map keyParamName := by
  rw [selectParams, List.map_map, List.range_eq_range', ← List.zipIdx_map_snd, List.map_map]
  rfl

theorem selectParams_map_snd (r : Record) :
    r.selectParams.map (·.2) = r.keyFields.map (·.type) := by
  have hfields := List.zipIdx_map_fst 0 r.keyFields
  conv => rhs; rw [← hfields, List.map_map]
  rw [selectParams, List.map_map]
  rfl

theorem hasKey_of_isGenerated (h : (ofTable rules policy t).key.isGenerated = true) :
    (ofTable rules policy t).hasKey = true := by
  rw [hasKey, Bool.not_eq_true']
  exact PrimaryKey.isEmpty_of_isGenerated policy t.columns h

end Model.Record

end RowBindings
