import RowBindings.Model.Record
import RowBindings.Proofs.Catalog.Session
import RowBindings.Proofs.Catalog.TypeText
import RowBindings.Proofs.Model.Registration

/-!
# Columns of enumeration types

The rule registered for an enumeration type names it as the catalog writes it, while the types of
columns are stripped of modifiers before they are looked up. A column of the type resolves to the
generated type just if the two still agree, and if no rule registered before covers what is left.
-/

namespace RowBindings

namespace Model.EnumModel

open Catalog TypeMap

/-- The types among those listed that get a rule, `rules` being there before: those whose name no
rule has. -/
def unnamed (rules : RuleSet) (enums : List Enumeration) : List Enumeration :=
  enums.filter fun e => !rules.contains e.name

/-- Whether the entry registered for an enumeration type covers a type. -/
def entryCovers (type : String) (e : Enumeration) : Bool :=
  (Entry.ofText e.dbType).covers type

/-- With distinct names, the types that get a rule are those whose name no rule has. -/
theorem registered_eq_unnamed (rules : RuleSet) {enums : List Enumeration}
    (hnodup : (enums.map (·.name)).Nodup) :
    registered rules (enums.map ofEnumeration) = (unnamed rules enums).map ofEnumeration := by
  induction enums using List.reverseRecOn with
  | nil => rfl
  | append_singleton enums e ih =>
    rw [List.map_append, List.nodup_append] at hnodup
    have hfirst : (enums.map ofEnumeration).any (·.source.name == e.name) = false := by
      rw [List.any_map, List.any_eq_false]
      intro other hother hsame
      exact hnodup.2.2 _ (List.mem_map_of_mem hother) _ List.mem_cons_self (beq_iff_eq.1 hsame)
    have hnew : isNew rules (enums.map ofEnumeration) (ofEnumeration e)
        = !rules.contains e.name := by
      rw [isNew]
      exact (congrArg (fun b => !rules.contains e.name && !b) hfirst).trans (Bool.and_true _)
    rw [List.map_append, List.map_singleton, registered_concat, ih hnodup.1, hnew, unnamed,
      unnamed, List.filter_append, List.map_append, List.filter_cons, List.filter_nil]
    split
    · rfl
    · rfl

/-- With distinct names, each type whose name no rule has gets its rule, after the others. -/
theorem enumModels_rules {enums : List Enumeration} (rules : RuleSet)
    (hnodup : (enums.map (·.name)).Nodup) :
    (enumModels rules enums).2 = { rules with
      rules := rules.rules ++ (unnamed rules enums).map fun e => (ofEnumeration e).rule } := by
  rw [enumModels, register_eq_append, registered_eq_unnamed rules hnodup, List.map_map]
  rfl

theorem covers_rule (type : String) (e : Enumeration) :
    (ofEnumeration e).rule.covers type = entryCovers type e :=
  rule_covers type (ofEnumeration e)

/-- A type that no rule there before covers gets the rule of the first registered enumeration type
whose entry covers it. -/
theorem ruleFor?_enumModels {rules : RuleSet} {enums : List Enumeration} {type : String}
    (hnodup : (enums.map (·.name)).Nodup) (hfree : rules.ruleFor? type = none) :
    (enumModels rules enums).2.ruleFor? type
      = ((unnamed rules enums).find? (entryCovers type)).map fun e => (ofEnumeration e).rule := by
  have hcovers : (fun m : EnumModel => m.rule.covers type) ∘ ofEnumeration = entryCovers type :=
    funext (covers_rule type)
  rw [enumModels, ruleFor?_register, hfree, Option.none_or, registered_eq_unnamed rules hnodup,
    List.find?_map, hcovers, Option.map_map]
  rfl

/-- Whether an enumeration type is the first of those registered whose entry covers a type. -/
def IsFirstCovering (rules : RuleSet) (enums : List Enumeration) (type : String)
    (e : Enumeration) : Prop :=
  entryCovers type e = true
  ∧ ∃ before after, enums = before ++ e :: after
    ∧ ∀ other ∈ before, rules.contains other.name = false → entryCovers type other = false

theorem find?_unnamed_iff {rules : RuleSet} {enums : List Enumeration} {type : String}
    {e : Enumeration} (hname : rules.contains e.name = false) :
    (unnamed rules enums).find? (entryCovers type) = some e
      ↔ IsFirstCovering rules enums type e := by
  rw [unnamed, List.find?_filter, List.find?_eq_some_iff_append, IsFirstCovering, hname]
  refine and_congr (by simp) ?_
  refine exists_congr fun before => exists_congr fun after => and_congr_right fun _ => ?_
  refine forall_congr' fun other => imp_congr_right fun _ => ?_
  cases rules.contains other.name with
  | false => simp
  | true => simp

/-- A type that is listed is looked up with its own rule just if it comes first. -/
theorem ruleFor?_eq_rule_iff {rules : RuleSet} {enums : List Enumeration} {type : String}
    {e : Enumeration} (hnodup : (enums.map (·.name)).Nodup) (he : e ∈ enums)
    (hname : rules.contains e.name = false) (hfree : rules.ruleFor? type = none) :
    (enumModels rules enums).2.ruleFor? type = some (ofEnumeration e).rule
      ↔ IsFirstCovering rules enums type e := by
  rw [ruleFor?_enumModels hnodup hfree, ← find?_unnamed_iff hname, Option.map_eq_some_iff]
  constructor
  · -- rules are told apart by their names, and no two types listed have one name
    rintro ⟨other, hother, hrule⟩
    have hlisted : other ∈ enums := List.mem_of_mem_filter (List.mem_of_find?_eq_some hother)
    have hsame : other.name = e.name := congrArg Rule.name hrule
    rw [← List.inj_on_of_nodup_map hnodup hlisted he hsame]
    exact hother
  · exact fun hfound => ⟨e, hfound, rfl⟩

/-- Whether an enumeration type is written as no pattern is: its rule covers one type only. -/
def IsLiteral (e : Enumeration) : Prop :=
  Entry.ofText e.dbType = .literal e.dbType

theorem entryCovers_iff {type : String} {e : Enumeration} (h : IsLiteral e) :
    entryCovers type e = true ↔ e.dbType = type := by
  rw [entryCovers, h, Entry.covers, beq_iff_eq]

/-- Among literal types written differently, one is looked up by its stripped text just if there was
nothing to strip. -/
theorem isFirstCovering_stripModifiers_iff (rules : RuleSet) {enums : List Enumeration}
    {e : Enumeration} (htypes : (enums.map (·.dbType)).Nodup) (he : e ∈ enums)
    (hliteral : ∀ other ∈ enums, IsLiteral other) :
    IsFirstCovering rules enums (stripModifiers e.dbType) e ↔ IsPlain e.dbType := by
  rw [← stripModifiers_eq_self_iff, IsFirstCovering, entryCovers_iff (hliteral e he)]
  constructor
  · exact fun ⟨hcovers, _⟩ => hcovers.symm
  · intro hplain
    obtain ⟨before, after, henums⟩ := List.append_of_mem he
    refine ⟨hplain.symm, before, after, henums, fun other hother _ => ?_⟩
    rw [henums, List.map_append, List.nodup_append] at htypes
    rw [Bool.eq_false_iff, Ne, entryCovers_iff (hliteral other ?_), hplain]
    · exact htypes.2.2 _ (List.mem_map_of_mem hother) _ List.mem_cons_self
    · rw [henums]
      exact List.mem_append_left _ hother

/-- The name generated for an enumeration type, as a column uses it. -/
def columnType (e : Enumeration) (notNull : Bool) : String :=
  if notNull then Identifier.typeName e.name else "Null" ++ Identifier.typeName e.name

/-- What a column of a type that no rule there before covers is resolved to: by the rule of the
first enumeration type that covers it, or by the fallback. -/
theorem resolve_enumModels {rules : RuleSet} {enums : List Enumeration} {type : String}
    (hnodup : (enums.map (·.name)).Nodup) (hfree : rules.ruleFor? type = none) (notNull : Bool) :
    (enumModels rules enums).2.resolve type notNull
      = match (unnamed rules enums).find? (entryCovers type) with
        | some e => columnType e notNull
        | none => rules.fallback.notNullType := by
  rw [RuleSet.resolve, ruleFor?_enumModels hnodup hfree, enumModels_rules rules hnodup]
  cases (unnamed rules enums).find? (entryCovers type) with
  | none => rfl
  | some e => rfl

section Columns

variable {s : Session} {schema : String} {e : Enumeration} {listed : String × String} {c : Column}

/-- A column of an enumeration type, as the database lists it, is typed by the rule of that type
just if the rule is the first to cover what is left of its text. If all types are written as
literals, that is so just if there was nothing to strip. Otherwise the column gets the type of the
fallback, or that of another enumeration type. -/
theorem column_resolves_iff (hanswers : s.AnswersAll schema)
    (hnames : ((s.enumerationRows schema).map (·.name)).Nodup)
    (htypes : ((s.enumerationRows schema).map (·.dbType)).Nodup)
    (he : e ∈ s.enumerationRows schema) (hlisted : listed ∈ s.tableRows schema)
    (hc : c ∈ s.columnRows schema listed.1) (htype : c.dataType = e.dbType)
    (rules : RuleSet) (policy : KeyPolicy) (hname : rules.contains e.name = false)
    (hfree : rules.ruleFor? (Session.loadColumn c).dataType = none) :
    ∃ read t, (s.readSchema schema).1 = .ok read ∧ t ∈ read.tables ∧ t.name = listed.1
      ∧ ∃ f ∈ (Record.ofTable (enumModels rules read.enumerations).2 policy t).fields,
        f.column = Session.loadColumn c
        ∧ ((enumModels rules read.enumerations).2.ruleFor? f.column.dataType
            = some (ofEnumeration e).rule
          ↔ IsFirstCovering rules read.enumerations f.column.dataType e)
        ∧ ((∀ other ∈ read.enumerations, IsLiteral other) →
          (IsFirstCovering rules read.enumerations f.column.dataType e ↔ IsPlain e.dbType))
        ∧ (IsFirstCovering rules read.enumerations f.column.dataType e →
          f.type = columnType e c.notNull)
        ∧ (¬IsFirstCovering rules read.enumerations f.column.dataType e →
          f.type = rules.fallback.notNullType
          ∨ ∃ other ∈ read.enumerations, other ≠ e ∧ f.type = columnType other c.notNull) := by
  have hloaded : (Session.loadColumn c).dataType = stripModifiers e.dbType := by
    rw [Session.loadColumn, htype]
  refine ⟨_, s.loadTable schema listed, s.readSchema_of_answersAll schema hanswers,
    List.mem_map_of_mem hlisted, rfl, _, List.mem_map_of_mem (List.mem_map_of_mem hc), rfl,
    ruleFor?_eq_rule_iff hnames he hname hfree, ?_, ?_, ?_⟩
  · intro hliteral
    have hplain := isFirstCovering_stripModifiers_iff rules htypes he hliteral
    rw [← hloaded] at hplain
    exact hplain
  · intro hfirst
    have hfound : (unnamed rules (s.enumerationRows schema)).find?
        (entryCovers (Session.loadColumn c).dataType) = some e := (find?_unnamed_iff hname).2 hfirst
    have hresolved := resolve_enumModels hnames hfree c.notNull
    rw [hfound] at hresolved
    exact hresolved
  · intro hlater
    have hresolved := resolve_enumModels hnames hfree c.notNull
    cases hfound : (unnamed rules (s.enumerationRows schema)).find?
        (entryCovers (Session.loadColumn c).dataType) with
    | none =>
      rw [hfound] at hresolved
      exact Or.inl hresolved
    | some other =>
      rw [hfound] at hresolved
      refine Or.inr ⟨other, List.mem_of_mem_filter (List.mem_of_find?_eq_some hfound), ?_,
        hresolved⟩
      rintro rfl
      exact hlater ((find?_unnamed_iff hname).1 hfound)

/-- An enumeration type whose name has to be quoted. -/
def size : Enumeration where
  schema := "public"
  name := "Size"
  dbType := "\"Size\""
  labels := ["S", "L"]

/-- An enumeration type that is written like `size` once it is stripped. -/
def sizeInCentimetres : Enumeration where
  schema := "public"
  name := "Size(cm)"
  dbType := "\"Size(cm)\""
  labels := ["10", "20"]

/-- A column of an enumeration type that is never null. -/
def columnOf (ordinal : Int) (name : String) (e : Enumeration) : Column where
  ordinal := ordinal
  name := name
  dataType := e.dbType
  ddlType := e.dbType
  notNull := true
  defaultValue := none
  isPrimaryKey := false
  identity := .none

/-- A schema with both types and one table, which has a column of each. -/
def shop : Session where
  enumerationRows := fun _ => [size, sizeInCentimetres]
  tableRows := fun _ => [("shirts", "r")]
  columnRows := fun _ _ => [columnOf 1 "size" size, columnOf 2 "length" sizeInCentimetres]
  failing := none

theorem shop_answersAll : shop.AnswersAll "public" where
  enumerations := rfl
  tables := rfl
  columns := fun _ _ => rfl

/-- The size of a shirt is typed as its enumeration type. -/
theorem column_resolves_size :
    ∃ read t, (shop.readSchema "public").1 = .ok read ∧ t ∈ read.tables
      ∧ ∃ f ∈ (Record.ofTable (enumModels (.ofFallback "Any") read.enumerations).2 {} t).fields,
        f.column = Session.loadColumn (columnOf 1 "size" size) ∧ f.type = "Size" := by
  obtain ⟨read, t, hread, ht, _, f, hf, hcolumn, _, _, htype, _⟩ :=
    column_resolves_iff shop_answersAll (by decide) (by decide)
      (List.mem_cons_self : size ∈ [size, sizeInCentimetres]) List.mem_cons_self
      (List.mem_cons_self : columnOf 1 "size" size ∈ shop.columnRows "public" "shirts") rfl
      (.ofFallback "Any") {} (by decide +kernel) (by decide +kernel)
  have hfirst : IsFirstCovering (.ofFallback "Any") read.enumerations f.column.dataType size := by
    rw [shop.readSchema_of_answersAll "public" shop_answersAll] at hread
    cases hread
    rw [hcolumn]
    exact ⟨by decide +kernel, [], [sizeInCentimetres], rfl, fun _ h => nomatch h⟩
  have hname : columnType size true = "Size" := by decide +kernel
  exact ⟨read, t, hread, ht, f, hf, hcolumn, (htype hfirst).trans hname⟩

/-- The length of a shirt is typed as the other enumeration type, though nothing fails and nothing
is named or written alike. -/
theorem column_typed_as_other_enumeration :
    shop.AnswersAll "public"
    ∧ ((shop.enumerationRows "public").map (·.name)).Nodup
    ∧ ((shop.enumerationRows "public").map (·.dbType)).Nodup
    ∧ (RuleSet.ofFallback "Any").contains sizeInCentimetres.name = false
    ∧ (RuleSet.ofFallback "Any").ruleFor?
        (Session.loadColumn (columnOf 2 "length" sizeInCentimetres)).dataType = none
    ∧ (∃ read, (shop.readSchema "public").1 = .ok read
      ∧ read.tables.flatMap (fun t =>
          (Record.ofTable (enumModels (.ofFallback "Any") read.enumerations).2 {} t).fields.map
            fun f => (f.column.name, f.type))
        = [("size", "Size"), ("length", "Size")])
    ∧ columnType sizeInCentimetres true = "Size_cm_" := by
  refine ⟨shop_answersAll, by decide, by decide, by decide +kernel, by decide +kernel,
    ⟨_, shop.readSchema_of_answersAll "public" shop_answersAll, ?_⟩, ?_⟩
  · decide +kernel
  · decide +kernel

end Columns

end Model.EnumModel

end RowBindings
