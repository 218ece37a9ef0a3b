import RowBindings.Proofs.Model.Key

/-!
# What the key of a record points to

A record keeps its key as positions and looks fields up by them unchecked, while the fields bound on
insertion are picked by testing each position for membership. Both rest on one invariant: the
positions are those of the key columns, ascending and each with a field. Main statement: the record
of every table satisfies it, so that no lookup fails, and what is bound and what comes back on
insertion divide the fields between them.
-/

namespace RowBindings

namespace Catalog.PrimaryKey

/-- What a key says about the columns of its table. -/
structure IsKeyOf (policy : KeyPolicy) (columns : List Column) (key : PrimaryKey) : Prop where
  ascending : key.indices.Pairwise (· < ·)
  /-- The positions are exactly those of the key columns. -/
  mem_indices_iff : ∀ index, index ∈ key.indices ↔
    ∃ c, columns[index]? = some c ∧ c.isPrimaryKey = true
  /-- A key is generated just if it has columns and each of them is. -/
  isGenerated_iff : key.isGenerated = true ↔
    key.indices ≠ [] ∧ ∀ c ∈ columns, c.isPrimaryKey = true → policy.generates c = true

variable (policy : KeyPolicy) (columns : List Column)

/-- The positions are taken in order from those of all columns. -/
theorem ascending_indices : (ofColumns policy columns).indices.Pairwise (· < ·) := by
  have hpositions : (columns.zipIdx.map (·.2)).Pairwise (· < ·) := by
    rw [List.zipIdx_map_snd]
    exact List.pairwise_lt_range'
  have hsublist : (ofColumns policy columns).indices.Sublist (columns.zipIdx.map (·.2)) :=
    List.filter_sublist.map _
  exact hpositions.sublist hsublist

theorem mem_indices_iff (index : Nat) :
    index ∈ (ofColumns policy columns).indices ↔
      ∃ c, columns[index]? = some c ∧ c.isPrimaryKey = true := by
  have hcontains := contains_ofColumns policy columns index
  rw [← List.contains_iff_mem, ← PrimaryKey.contains, hcontains, Option.any_eq_true]

theorem isGenerated_iff :
    (ofColumns policy columns).isGenerated = true ↔
      (ofColumns policy columns).indices ≠ []
        ∧ ∀ c ∈ columns, c.isPrimaryKey = true → policy.generates c = true := by
  simp only [ofColumns, Bool.and_eq_true, Bool.not_eq_true', List.isEmpty_eq_false_iff, ne_eq,
    List.map_eq_nil_iff, List.all_eq_true, List.mem_filter]
  -- the positions play no part in which columns are generated
  refine and_congr_right fun _ => ⟨?_, ?_⟩
  · intro h c hc hkey
    obtain ⟨i, hi⟩ := List.mem_iff_getElem?.1 hc
    exact h (c, i) ⟨List.mem_zipIdx_iff_getElem?.2 hi, hkey⟩
  · rintro h ⟨c, i⟩ ⟨hmem, hkey⟩
    exact h c (List.mem_of_getElem? (List.mem_zipIdx_iff_getElem?.1 hmem)) hkey

theorem isKeyOf_ofColumns : IsKeyOf policy columns (ofColumns policy columns) where
  ascending := ascending_indices policy columns
  mem_indices_iff := mem_indices_iff policy columns
  isGenerated_iff := isGenerated_iff policy columns

end Catalog.PrimaryKey

namespace Model.Record

open Catalog TypeMap

/-- A record has the fields and the key of a table, and an insertion divides its fields. -/
structure IsLaidOut (policy : KeyPolicy) (t : Table) (r : Record) : Prop where
  /-- There is one field for each column, in order, which carries it. -/
  columns : r.fields.map (·.column) = t.columns
  key : r.key.IsKeyOf policy t.columns
  inRange : ∀ i ∈ r.key.indices, i < r.fields.length
  /-- Looking the key up in the fields finds a field at each position. -/
  found : r.key.indices.map (r.fields[·]?) = r.keyFields.map some
  keyFields : r.keyFields = r.fields.filter (·.column.isPrimaryKey)
  /-- A generated key comes back, and the other fields are bound. -/
  generated : r.key.isGenerated = true →
    r.insertParams = r.fields.filter (fun f => !f.column.isPrimaryKey)
      ∧ r.insertScan = r.fields.filter (·.column.isPrimaryKey)
  /-- With any other key all fields are bound, and nothing comes back. -/
  supplied : r.key.isGenerated = false → r.insertParams = r.fields ∧ r.insertScan = []
  /-- What is bound and what comes back stand in the order of the columns, -/
  paramsInOrder : r.insertParams.Sublist r.fields
  scanInOrder : r.insertScan.Sublist r.fields
  /-- and together they are all fields, each as often as it is one. -/
  divided : (r.insertParams ++ r.insertScan).Perm r.fields

variable (rules : RuleSet) (policy : KeyPolicy) (t : Table)

theorem lt_length_of_mem_indices {i : Nat} (h : i ∈ (ofTable rules policy t).key.indices) :
    i < (ofTable rules policy t).fields.length := by
  rw [ofTable, List.length_map]
  exact PrimaryKey.lt_of_mem_indices policy t.columns h

theorem insertParams_of_isGenerated (h : (ofTable rules policy t).key.isGenerated = true) :
    (ofTable rules policy t).insertParams
      = (ofTable rules policy t).fields.filter fun f => !f.column.isPrimaryKey := by
  rw [insertParams_ofTable, h]
  simp only [Bool.true_and]

theorem insertScan_of_isGenerated (h : (ofTable rules policy t).key.isGenerated = true) :
    (ofTable rules policy t).insertScan
      = (ofTable rules policy t).fields.filter (·.column.isPrimaryKey) := by
  rw [insertScan, if_pos h, keyFields_eq_filter]

theorem insertScan_of_not_isGenerated {r : Record} (h : r.key.isGenerated = false) :
    r.insertScan = [] := by
  rw [insertScan, h]
  rfl

theorem insertParams_sublist (r : Record) : r.insertParams.Sublist r.fields := by
  have h : r.insertParams.Sublist (r.fields.zipIdx.map (·.1)) := List.filter_sublist.map _
  rwa [List.zipIdx_map_fst] at h

theorem insertScan_sublist :
    (ofTable rules policy t).insertScan.Sublist (ofTable rules policy t).fields := by
  cases h : (ofTable rules policy t).key.isGenerated with
  | true =>
    rw [insertScan_of_isGenerated rules policy t h]
    exact List.filter_sublist
  | false =>
    rw [insertScan_of_not_isGenerated h]
    exact List.nil_sublist _

/-- No field is lost on insertion, and none is both bound and given back. -/
theorem insertParams_append_insertScan_perm :
    ((ofTable rules policy t).insertParams ++ (ofTable rules policy t).insertScan).Perm
      (ofTable rules policy t).fields := by
  cases h : (ofTable rules policy t).key.isGenerated with
  | true =>
    rw [insertParams_of_isGenerated rules policy t h, insertScan_of_isGenerated rules policy t h]
    exact List.perm_append_comm.trans (List.filter_append_perm _ _)
  | false =>
    rw [insertParams_of_not_isGenerated rules policy t h, insertScan_of_not_isGenerated h,
      List.append_nil]

/-- The record of a table: its fields carry the columns in order, its key points to the fields of
the key columns and to nothing else, and an insertion binds or gives back each field, just once. -/
theorem isLaidOut_ofTable : IsLaidOut policy t (ofTable rules policy t) where
  columns := map_column_fieldOf rules t.columns
  key := PrimaryKey.isKeyOf_ofColumns policy t.columns
  inRange := fun _ => lt_length_of_mem_indices rules policy t
  found := map_indices_eq_keyFields rules policy t
  keyFields := keyFields_eq_filter rules policy t
  generated := fun h =>
    ⟨insertParams_of_isGenerated rules policy t h, insertScan_of_isGenerated rules policy t h⟩
  supplied := fun h =>
    ⟨insertParams_of_not_isGenerated rules policy t h, insertScan_of_not_isGenerated h⟩
  paramsInOrder := insertParams_sublist _
  scanInOrder := insertScan_sublist rules policy t
  divided := insertParams_append_insertScan_perm rules policy t

end Model.Record

end RowBindings
