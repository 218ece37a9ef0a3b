import RowBindings.Proofs.Generation.DeclaredNames

/-!
# Tables that leave each other alone

What is selected decides which pieces the file has, and nothing else about them. A selection does the
same as taking the other tables out of the schema, and with the pieces of all tables at hand those of
any of them, in any order, are known: no table has a say in the piece of another one.
-/

namespace RowBindings.Generation.Config

open Catalog Model Template

variable {c : Config} {helpers : Helpers} {formatter : Formatter} {s : Schema} {r : Renderer}

/-! ## Selections as schemas -/

/-- The part of a schema that pieces are made for. -/
def selected (c : Config) (s : Schema) : Schema where
  name := s.name
  tables := c.tables s
  enumerations := c.enumerations s

/-- The configuration under which there are pieces for all of a schema. -/
def unrestricted (c : Config) : Config :=
  { c with selection := {}, includeEnums := true }

/-- Without lists of tables every table is selected. -/
theorem tables_of_selection_eq (h : c.selection = {}) : c.tables s = s.tables := by
  unfold tables
  rw [h]
  exact List.filter_eq_self.2 fun _ _ => rfl

/-- What is generated is decided by the part of the schema that is selected. -/
theorem generate_unrestricted_selected :
    c.unrestricted.generate helpers formatter (c.selected s)
      = c.generate helpers formatter s := by
  have hrecords : c.unrestricted.records (c.selected s) = c.records s := by
    unfold records
    rw [tables_of_selection_eq (rfl : c.unrestricted.selection = {})]
    rfl
  unfold generate
  rw [hrecords]
  rfl

/-- Configurations that differ in their selections only generate the same if they select the same. -/
theorem generate_eq_of_selected_eq {c' : Config} {s' : Schema}
    (hconfig : c.unrestricted = c'.unrestricted) (hselected : c.selected s = c'.selected s') :
    c.generate helpers formatter s = c'.generate helpers formatter s' := by
  rw [← generate_unrestricted_selected, hconfig, hselected, generate_unrestricted_selected]

/-! ## Single tables -/

/-- The piece for a table, or nothing if there is none. -/
def pieceOf (c : Config) (r : Renderer) (s : Schema) (t : Table) : String :=
  match c.tablePiece r (.ofTable (c.allRules s) c.keyPolicy t) with
  | .ok piece => piece
  | .error _ => ""

/-- The pieces for tables that each have one. -/
theorem forall₂_pieceOf {tables : List Table}
    (h : ∀ t ∈ tables, ∃ piece, c.tablePiece r (.ofTable (c.allRules s) c.keyPolicy t) = .ok piece) :
    List.Forall₂ (fun record piece => c.tablePiece r record = .ok piece)
      (tables.map (.ofTable (c.allRules s) c.keyPolicy)) (tables.map (c.pieceOf r s)) := by
  refine List.forall₂_map_left_iff.2 (List.forall₂_map_right_iff.2 (List.forall₂_same.2 ?_))
  intro t ht
  obtain ⟨piece, hpiece⟩ := h t ht
  simp only [pieceOf, hpiece]

/-- If a file is generated, each of its tables has a piece. -/
theorem exists_tablePiece {pieces : List String}
    (h : List.Forall₂ (fun record piece => c.tablePiece r record = .ok piece) (c.records s) pieces) :
    ∀ t ∈ c.tables s,
      ∃ piece, c.tablePiece r (.ofTable (c.allRules s) c.keyPolicy t) = .ok piece := by
  have hall : List.Forall₂ (fun t _ =>
      (∃ piece, c.tablePiece r (.ofTable (c.allRules s) c.keyPolicy t) = .ok piece) ∧ True)
      (c.tables s) pieces :=
    (List.forall₂_map_left_iff.1 h).imp fun _ piece hpiece => ⟨⟨piece, hpiece⟩, trivial⟩
  exact ((List.forall₂_and_left _ _).1 hall).1

/-- Tables of a schema for which a file is generated have the pieces that they have there. -/
theorem generate_of_subset {out : String} (hout : c.generate helpers formatter s = .ok out) :
    ∃ enums piece, ∀ tables : List Table, tables ⊆ s.tables →
      c.generate helpers formatter { s with tables }
        = .ok (c.header s ++ "\n".intercalate
          (enums ++ (tables.filter fun t => c.selection.selects t.name).map piece)) := by
  obtain ⟨r, enums, pieces, hr, henums, hpieces, -⟩ := (generate_eq_ok_iff out).1 hout
  refine ⟨enums, c.pieceOf r s, ?_⟩
  intro tables hsubset
  -- the renderer, the enumerations and the header do not depend on the tables
  refine (generate_eq_ok_iff _).2 ⟨r, enums, _, hr, henums, forall₂_pieceOf ?_, rfl⟩
  intro t ht
  obtain ⟨hmem, hselects⟩ := List.mem_filter.1 ht
  exact exists_tablePiece hpieces t (List.mem_filter.2 ⟨hsubset hmem, hselects⟩)

/-- Selecting tables does the same, failures included, as taking the others out of the schema, and
leaving enumerations out the same as a schema without any. If a file is generated, then one is
generated for any tables of the schema, in any order: after the same header and the same pieces for
enumerations it has for each of these tables that is selected the piece that the table has in the
file for all of them. -/
theorem generate_selection (c : Config) (helpers : Helpers) (formatter : Formatter) (s : Schema) :
    c.generate helpers formatter s
      = { c with selection := {} }.generate helpers formatter
        { s with tables := s.tables.filter fun t => c.selection.selects t.name }
    ∧ (∀ includeEnums, { c with includeEnums := false }.generate helpers formatter s
      = { c with includeEnums }.generate helpers formatter { s with enumerations := [] })
    ∧ ∀ out, c.generate helpers formatter s = .ok out →
      ∃ enums piece, ∀ tables : List Table, tables ⊆ s.tables →
        c.generate helpers formatter { s with tables }
          = .ok (c.header s ++ "\n".intercalate
            (enums ++ (tables.filter fun t => c.selection.selects t.name).map piece)) := by
  refine ⟨?_, ?_, fun out hout => generate_of_subset hout⟩
  · refine generate_eq_of_selected_eq rfl ?_
    simp only [selected, tables_of_selection_eq (c := { c with selection := {} }) rfl]
    rfl
  · intro includeEnums
    refine generate_eq_of_selected_eq rfl ?_
    cases includeEnums <;> rfl

/-- The pieces of two tables stay what they are when the tables are exchanged, and when one of them
is left out. -/
theorem generate_selection_pets :
    ∃ out, stringConfig.generate {} .passthrough petSchema = .ok out
      ∧ ∃ enums pets owners,
        out = stringConfig.header petSchema ++ "\n".intercalate (enums ++ [pets, owners])
        ∧ stringConfig.generate {} .passthrough
            { petSchema with tables := [emptyTable "pet_owners", emptyTable "pets"] }
          = .ok (stringConfig.header petSchema ++ "\n".intercalate (enums ++ [owners, pets]))
        ∧ { stringConfig with selection := { excluded := some ["pets"] } }.generate {} .passthrough
            petSchema
          = .ok (stringConfig.header petSchema ++ "\n".intercalate (enums ++ [owners])) := by
  have hplain : stringConfig.IsPlain .passthrough := ⟨rfl, rfl, rfl⟩
  have hout := generate_of_isPlain (s := petSchema) hplain
  obtain ⟨-, -, htables⟩ := generate_selection stringConfig {} .passthrough petSchema
  obtain ⟨enums, piece, hpieces⟩ := htables _ hout
  obtain ⟨hexcluded, -, -⟩ := generate_selection
    { stringConfig with selection := { excluded := some ["pets"] } } {} .passthrough petSchema
  refine ⟨_, hout, enums, piece (emptyTable "pets"), piece (emptyTable "pet_owners"), ?_, ?_, ?_⟩
  · exact Except.ok.inj (hout.symm.trans (hpieces petSchema.tables (List.Subset.refl _)))
  · exact hpieces [emptyTable "pet_owners", emptyTable "pets"] (by decide)
  · have howners : (petSchema.tables.filter fun t =>
        ({ excluded := some ["pets"] } : Selection).selects t.name) = [emptyTable "pet_owners"] := by
      decide
    exact hexcluded.trans (by
      simp only [howners]
      exact hpieces [emptyTable "pet_owners"] (by decide))

end RowBindings.Generation.Config
