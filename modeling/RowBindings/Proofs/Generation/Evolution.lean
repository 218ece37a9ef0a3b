import RowBindings.Proofs.Generation.Containment
import RowBindings.Proofs.Model.EnumColumns
import RowBindings.Proofs.Model.Variants

/-!
# Changes to enumerations stay local

What a file has for an enumeration depends on that enumeration alone, and what it has for a table
depends on the enumerations through the rules only. So other labels change one fragment, labels added
at the end keep the variants there are, and a new enumeration is seen by the tables with a column of
its type and by no others.
-/

namespace RowBindings

/-! ## Rules -/

namespace Model.EnumModel

open Catalog TypeMap

/-- Only the rules of enumerations matter to the rule set. -/
theorem register_eq_foldl (rules : RuleSet) (models : List EnumModel) :
    register rules models
      = (models.map rule).foldl (fun s r => if s.contains r.name then s else s.push r) rules := by
  rw [List.foldl_map]
  rfl

/-- Labels do not matter to the rule set. -/
theorem enumModels_with_labels (rules : RuleSet) (before after : List Enumeration) (e : Enumeration)
    (labels : List String) :
    (enumModels rules (before ++ { e with labels } :: after)).2
      = (enumModels rules (before ++ e :: after)).2 := by
  simp only [enumModels, register_eq_foldl, List.map_append, List.map_cons]
  rfl

theorem unnamed_append (rules : RuleSet) (enums more : List Enumeration) :
    unnamed rules (enums ++ more) = unnamed rules enums ++ unnamed rules more :=
  List.filter_append _ _

/-- An enumeration written as no pattern does not matter to other types, wherever it is added. -/
theorem resolve_enumModels_insert (rules : RuleSet) {before after : List Enumeration}
    {e : Enumeration} (hnodup : ((before ++ e :: after).map (·.name)).Nodup) (hliteral : IsLiteral e)
    {type : String} (htype : type ≠ e.dbType) (notNull : Bool) :
    (enumModels rules (before ++ e :: after)).2.resolve type notNull
      = (enumModels rules (before ++ after)).2.resolve type notNull := by
  have hnodup' : ((before ++ after).map (·.name)).Nodup :=
    hnodup.sublist (((List.sublist_cons_self e after).append_left before).map _)
  have hcovers : (ofEnumeration e).rule.covers type = false := by
    rw [covers_rule, Bool.eq_false_iff, Ne, entryCovers_iff hliteral]
    exact htype.symm
  have hrule : (((unnamed rules [e]).map fun e => (ofEnumeration e).rule).find? (·.covers type))
      = none := by
    refine List.find?_eq_none.2 fun r hr => ?_
    obtain ⟨other, hother, rfl⟩ := List.mem_map.1 hr
    rw [List.mem_singleton.1 (List.mem_of_mem_filter hother), hcovers]
    exact Bool.false_ne_true
  have hsplit : unnamed rules (before ++ e :: after)
      = unnamed rules before ++ (unnamed rules [e] ++ unnamed rules after) := by
    rw [← unnamed_append, ← unnamed_append, List.singleton_append]
  -- the rule stands between those before and after, and the search passes it by
  have hfind : (enumModels rules (before ++ e :: after)).2.ruleFor? type
      = (enumModels rules (before ++ after)).2.ruleFor? type := by
    simp only [enumModels_rules rules hnodup, enumModels_rules rules hnodup', RuleSet.ruleFor?,
      hsplit, unnamed_append, List.map_append, List.find?_append, hrule, Option.none_or]
  rw [RuleSet.resolve, RuleSet.resolve, hfind, enumModels_rules rules hnodup,
    enumModels_rules rules hnodup']

end Model.EnumModel

namespace Generation.Config

open Catalog Model Model.EnumModel Template TypeMap

variable {c : Config} {formatter : Formatter} {s : Schema}

/-- The header tells whether there is an enumeration, and nothing else about them. -/
theorem header_eq_of_isEmpty {s' : Schema} (hname : s.name = s'.name)
    (hempty : (c.enumerations s).isEmpty = (c.enumerations s').isEmpty) :
    c.header s = c.header s' := by
  have himports : c.imports s = c.imports s' := by
    simp only [imports, enumModels, Model.enumModels, List.isEmpty_map, hempty]
  rw [header, header, himports, hname]

theorem enumerations_of_include (henums : c.includeEnums = true) :
    c.enumerations s = s.enumerations := by
  rw [enumerations, henums, if_pos rfl]

/-- Labels of one enumeration matter to its fragment only. -/
theorem exists_generate_with_labels (hplain : c.IsPlain formatter) (henums : c.includeEnums = true)
    (s : Schema) (before after : List Enumeration) (e : Enumeration) :
    ∃ pre post, ∀ labels,
      c.generate {} formatter { s with enumerations := before ++ { e with labels } :: after }
        = .ok (pre ++ c.enumFragment { e with labels } ++ post) := by
  -- the header and the tables are those for the labels that `e` has
  let whole : Schema := { s with enumerations := before ++ e :: after }
  let tables := (c.tables s).map (c.tableFragment (c.allRules whole))
  refine ⟨c.header whole ++ String.join ((before.map c.enumFragment).map (· ++ "\n")),
    String.join ((after.map c.enumFragment ++ tables).map ("\n" ++ ·)), fun labels => ?_⟩
  let changed : Schema := { s with enumerations := before ++ { e with labels } :: after }
  have hheader : c.header changed = c.header whole := by
    refine header_eq_of_isEmpty rfl ?_
    rw [enumerations_of_include henums, enumerations_of_include henums]
    cases before <;> rfl
  have hrules : c.allRules changed = c.allRules whole := by
    rw [allRules, allRules, enumerations_of_include henums, enumerations_of_include henums]
    exact enumModels_with_labels c.rules before after e labels
  have htables : (c.tables changed).map (c.tableFragment (c.allRules changed)) = tables := by
    rw [hrules]
    rfl
  rw [generate_eq_fragments hplain, htables, hheader, enumerations_of_include henums,
    List.map_append, List.map_cons, List.append_assoc, List.cons_append,
    Text.intercalate_append_cons]
  simp only [String.append_assoc]

/-- A table without a column of the type of an added enumeration stays as it is. -/
theorem tableFragment_insert (henums : c.includeEnums = true) {before after : List Enumeration}
    {e : Enumeration} (hnodup : ((before ++ e :: after).map (·.name)).Nodup) (hliteral : IsLiteral e)
    {t : Table} (ht : ∀ column ∈ t.columns, column.dataType ≠ e.dbType) :
    c.tableFragment (c.allRules { s with enumerations := before ++ e :: after }) t
      = c.tableFragment (c.allRules { s with enumerations := before ++ after }) t := by
  have hrecord :
      Record.ofTable (c.allRules { s with enumerations := before ++ e :: after }) c.keyPolicy t
        = .ofTable (c.allRules { s with enumerations := before ++ after }) c.keyPolicy t := by
    have hfields (column : Column) (hcolumn : column ∈ t.columns) :
        Record.fieldOf (c.allRules { s with enumerations := before ++ e :: after }) column
          = Record.fieldOf (c.allRules { s with enumerations := before ++ after }) column := by
      have hresolve :=
        resolve_enumModels_insert c.rules hnodup hliteral (ht column hcolumn) column.notNull
      rw [Record.fieldOf, Record.fieldOf, allRules, allRules, enumerations_of_include henums,
        enumerations_of_include henums, hresolve]
    rw [Record.ofTable, Record.ofTable, List.map_congr_left hfields]
  rw [tableFragment, tableFragment, hrecord]

/-- A file is its header and one fragment for each enumeration and each table, as they are rendered;
only those for tables are told what enumerations there are. So other labels for an enumeration change
its fragment and no other byte. Labels added at its end keep the variants of those before. And an
enumeration that is added, wherever it stands, leaves the fragments of the tables that have no column
of its type, unless the type is written as a pattern is. -/
theorem enumeration_changes_are_local (hplain : c.IsPlain formatter)
    (henums : c.includeEnums = true) (s : Schema) (before after : List Enumeration) (e : Enumeration)
    (hnodup : ((before ++ e :: after).map (·.name)).Nodup) :
    (∃ r, c.renderer {} formatter = .ok r
      ∧ (∀ e, c.enumPiece r (.ofEnumeration e) = .ok (c.enumFragment e))
      ∧ ∀ rules t, c.tablePiece r (.ofTable rules c.keyPolicy t) = .ok (c.tableFragment rules t))
    ∧ (∀ enums : List Enumeration,
      c.generate {} formatter { s with enumerations := enums }
        = .ok (c.header { s with enumerations := enums } ++ "\n".intercalate
          (enums.map c.enumFragment ++ (c.tables s).map
            (c.tableFragment (c.allRules { s with enumerations := enums })))))
    ∧ (∃ pre post, ∀ labels,
      c.generate {} formatter { s with enumerations := before ++ { e with labels } :: after }
        = .ok (pre ++ c.enumFragment { e with labels } ++ post))
    ∧ (ofEnumeration e).values.map (·.value) = e.labels
    ∧ (∀ more, (ofEnumeration e).values
      <+: (ofEnumeration { e with labels := e.labels ++ more }).values)
    ∧ (IsLiteral e → ∀ t, (∀ column ∈ t.columns, column.dataType ≠ e.dbType) →
      c.tableFragment (c.allRules { s with enumerations := before ++ e :: after }) t
        = c.tableFragment (c.allRules { s with enumerations := before ++ after }) t) := by
  refine ⟨exists_renderer_of_isPlain hplain, fun enums => ?_,
    exists_generate_with_labels hplain henums s before after e, values_map_value e,
    values_prefix_append e, fun hliteral t ht => tableFragment_insert henums hnodup hliteral ht⟩
  rw [generate_eq_fragments hplain, enumerations_of_include henums]
  rfl

/-- Shirts with a size, which is of an enumeration type. -/
def shirts : Table where
  schema := "public"
  name := "shirts"
  kind := "r"
  columns := [columnOf 1 "size" size]

/-- The second type of sizes changes by itself, and the table that uses the first does not notice
that there is a second. -/
theorem shirts_with_other_sizes :
    ((([] ++ sizeInCentimetres :: [size]) : List Enumeration).map (·.name)).Nodup
    ∧ (∃ pre post, ∀ labels,
      stringConfig.generate {} .passthrough
          { name := "public", tables := [shirts],
            enumerations := [{ sizeInCentimetres with labels }, size] }
        = .ok (pre ++ stringConfig.enumFragment { sizeInCentimetres with labels } ++ post))
    ∧ (ofEnumeration size).values <+: (ofEnumeration { size with labels := ["S", "L", "s"] }).values
    ∧ stringConfig.tableFragment (stringConfig.allRules
          { name := "public", tables := [shirts], enumerations := [sizeInCentimetres, size] }) shirts
      = stringConfig.tableFragment (stringConfig.allRules
          { name := "public", tables := [shirts], enumerations := [size] }) shirts := by
  have hplain : stringConfig.IsPlain .passthrough := ⟨rfl, rfl, rfl⟩
  have hnodup : ((([] ++ sizeInCentimetres :: [size]) : List Enumeration).map (·.name)).Nodup := by
    decide
  have hliteral : IsLiteral sizeInCentimetres := by
    unfold IsLiteral
    decide +kernel
  have hcolumns : ∀ column ∈ shirts.columns, column.dataType ≠ sizeInCentimetres.dbType := by
    decide
  let schema : Schema := { name := "public", tables := [shirts], enumerations := [] }
  obtain ⟨-, -, hlabels, -, -, htable⟩ :=
    enumeration_changes_are_local hplain rfl schema [] [size] sizeInCentimetres hnodup
  obtain ⟨-, -, -, -, hmore, -⟩ :=
    enumeration_changes_are_local hplain rfl schema [] [] size (by decide)
  exact ⟨hnodup, hlabels, hmore ["s"], htable hliteral shirts hcolumns⟩

end Generation.Config

end RowBindings
