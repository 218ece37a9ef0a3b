import Mathlib.Data.List.Induction
import RowBindings.Model.Enumeration
import RowBindings.Proofs.TypeMap.RuleSet

/-!
# Enumerations extend the rules

Registering enumerations adds rules after those there are and takes none away: one for the first
enumeration of each name that no rule has. So a type that a rule covered is resolved as before, and
all others are resolved by the first registered enumeration that covers them, or by the fallback as
before. Registering the same enumerations once more adds nothing.
-/

namespace RowBindings.Model.EnumModel

open Catalog TypeMap

/-! ## Which enumerations get a rule -/

/-- Whether an enumeration gets a rule, some others coming before it: no rule has its name, and none
of those others has. -/
def isNew (rules : RuleSet) (before : List EnumModel) (m : EnumModel) : Bool :=
  !rules.contains m.source.name && !before.any (·.source.name == m.source.name)

/-- The enumerations that get a rule: those whose name no rule has, and of several with one name the
first. -/
def registered (rules : RuleSet) (models : List EnumModel) : List EnumModel :=
  (models.zipIdx.filter fun entry => isNew rules (models.take entry.2) entry.1).map (·.1)

variable (rules : RuleSet) (models : List EnumModel)

theorem isNew_iff {rules : RuleSet} {before : List EnumModel} {m : EnumModel} :
    isNew rules before m = true
      ↔ (m.source.name ≠ fallbackName ∧ m.source.name ∉ rules.rules.map (·.name))
        ∧ ∀ other ∈ before, other.source.name ≠ m.source.name := by
  rw [← RuleSet.contains_eq_false_iff, isNew]
  simp only [Bool.and_eq_true, Bool.not_eq_true', List.any_eq_false, beq_iff_eq, ne_eq]

theorem mem_registered_iff {rules : RuleSet} {models : List EnumModel} {m : EnumModel} :
    m ∈ registered rules models
      ↔ ∃ i, models[i]? = some m ∧ isNew rules (models.take i) m = true := by
  rw [registered, List.mem_map]
  constructor
  · rintro ⟨⟨m, i⟩, hmem, rfl⟩
    obtain ⟨hlisted, hnew⟩ := List.mem_filter.1 hmem
    exact ⟨i, List.mem_zipIdx_iff_getElem?.1 hlisted, hnew⟩
  · rintro ⟨i, hget, hnew⟩
    exact ⟨(m, i), List.mem_filter.2 ⟨List.mem_zipIdx_iff_getElem?.2 hget, hnew⟩, rfl⟩

theorem registered_sublist : (registered rules models).Sublist models := by
  have hall := (List.filter_sublist (l := models.zipIdx)
    (p := fun entry => isNew rules (models.take entry.2) entry.1)).map (·.1)
  rwa [List.zipIdx_map_fst] at hall

/-- Whether an enumeration at the end gets a rule depends on the names before it. -/
theorem registered_concat (m : EnumModel) :
    registered rules (models ++ [m])
      = registered rules models ++ if isNew rules models m then [m] else [] := by
  -- those before the last are looked at with the same others before them
  have hbefore : ∀ entry ∈ models.zipIdx,
      isNew rules ((models ++ [m]).take entry.2) entry.1
        = isNew rules (models.take entry.2) entry.1 := by
    rintro ⟨other, i⟩ hentry
    have hget := List.mem_zipIdx_iff_getElem?.1 hentry
    have hlt : i < models.length := (List.getElem?_eq_some_iff.1 hget).1
    rw [List.take_append_of_le_length (Nat.le_of_lt hlt)]
  rw [registered, List.zipIdx_append, List.filter_append, List.map_append,
    List.filter_congr hbefore]
  refine congrArg (registered rules models ++ ·) ?_
  rw [List.zipIdx_singleton, Nat.zero_add, List.filter_cons, List.filter_nil, List.take_left]
  split
  · rfl
  · rfl

/-! ## The rules that are added -/

theorem register_append (more : List EnumModel) :
    register rules (models ++ more) = register (register rules models) more :=
  List.foldl_append

theorem register_singleton (m : EnumModel) :
    register rules [m] = if rules.contains m.source.name then rules else rules.push m.rule := rfl

/-- The names of rules are then those there were and those of the enumerations. -/
theorem contains_register (name : String) :
    (register rules models).contains name
      = (rules.contains name || models.any (·.source.name == name)) := by
  induction models using List.reverseRecOn with
  | nil => exact (Bool.or_false _).symm
  | append_singleton models m ih =>
    rw [register_append, register_singleton, List.any_append, ← Bool.or_assoc, ← ih, List.any_cons,
      List.any_nil, Bool.or_false]
    -- where the last enumeration adds no rule, one has its name already
    split
    · next hcontains =>
      by_cases hname : m.source.name = name
      · rw [← hname, hcontains, Bool.true_or]
      · rw [beq_false_of_ne hname, Bool.or_false]
    · exact RuleSet.contains_push _ _ name

/-- The enumeration that comes next gets a rule if, and only if, its name is that of none there is
by then. -/
theorem isNew_eq_not_contains (m : EnumModel) :
    isNew rules models m = !(register rules models).contains m.source.name := by
  rw [contains_register, Bool.not_or, isNew]

theorem register_eq_append :
    register rules models
      = { rules with rules := rules.rules ++ (registered rules models).map rule } := by
  -- the rules grow at the end, so the induction takes the last enumeration off
  induction models using List.reverseRecOn with
  | nil => exact congrArg (RuleSet.mk · rules.fallback) (List.append_nil _).symm
  | append_singleton models m ih =>
    rw [register_append, register_singleton, registered_concat, isNew_eq_not_contains]
    cases (register rules models).contains m.source.name with
    | true => rw [Bool.not_true, if_pos rfl, if_neg Bool.false_ne_true, List.append_nil, ih]
    | false =>
      rw [Bool.not_false, if_neg Bool.false_ne_true, if_pos rfl, ih, RuleSet.push,
        List.map_append, List.append_assoc]
      rfl

theorem fallback_register : (register rules models).fallback = rules.fallback := by
  rw [register_eq_append]

/-- Rules keep their names apart. -/
theorem namesApart_register {rules : RuleSet} (h : NamesApart rules.rules) :
    NamesApart (register rules models).rules := by
  induction models using List.reverseRecOn with
  | nil => exact h
  | append_singleton models m ih =>
    rw [register_append, register_singleton]
    split
    · exact ih
    · next hfree => exact RuleSet.namesApart_push ih (Bool.eq_false_iff.2 hfree)

/-- Enumerations whose names rules have add nothing. -/
theorem register_eq_self {rules : RuleSet} {models : List EnumModel}
    (h : ∀ m ∈ models, rules.contains m.source.name = true) : register rules models = rules := by
  induction models with
  | nil => rfl
  | cons m models ih =>
    have hstep : register rules [m] = rules := if_pos (h m List.mem_cons_self)
    rw [← List.singleton_append, register_append, hstep]
    exact ih fun other hother => h other (List.mem_cons_of_mem m hother)

theorem register_register : register (register rules models) models = register rules models :=
  register_eq_self fun m hm => by
    have hlisted : models.any (·.source.name == m.source.name) = true :=
      List.any_eq_true.2 ⟨m, hm, beq_self_eq_true _⟩
    rw [contains_register, hlisted, Bool.or_true]

/-! ## What types are resolved to -/

/-- A type is looked up in the rules there were, and then among the registered enumerations. -/
theorem ruleFor?_register (type : String) :
    (register rules models).ruleFor? type = (rules.ruleFor? type).or
      (((registered rules models).find? (·.rule.covers type)).map rule) := by
  rw [register_eq_append, RuleSet.ruleFor?, List.find?_append, List.find?_map]
  rfl

/-- What the type of a column is by the first of some enumerations that covers its type, and what it
is by the fallback if none does. -/
def typeByFirst (rules : RuleSet) (models : List EnumModel) (type : String) (notNull : Bool) :
    String :=
  match models.find? fun m => (Entry.ofText m.source.dbType).covers type with
  | some m => if notNull then m.name else m.nullableName
  | none => rules.fallback.notNullType

theorem rule_covers (type : String) (m : EnumModel) :
    m.rule.covers type = (Entry.ofText m.source.dbType).covers type :=
  Bool.or_false _

theorem resolve_register_of_covers {rules : RuleSet} {r : Rule} {type : String}
    (hr : r ∈ rules.rules) (hcovers : r.covers type = true) (notNull : Bool) :
    (register rules models).resolve type notNull = rules.resolve type notNull := by
  have hsome : (rules.ruleFor? type).isSome = true :=
    List.find?_isSome.2 ⟨r, hr, hcovers⟩
  obtain ⟨first, hfirst⟩ := Option.isSome_iff_exists.1 hsome
  rw [RuleSet.resolve, RuleSet.resolve, ruleFor?_register, hfirst, Option.some_or]

theorem resolve_register_of_not_covers {rules : RuleSet} {type : String}
    (h : ∀ r ∈ rules.rules, r.covers type = false) (notNull : Bool) :
    (register rules models).resolve type notNull
      = typeByFirst rules (registered rules models) type notNull := by
  have hnone : rules.ruleFor? type = none :=
    List.find?_eq_none.2 fun r hr => Bool.eq_false_iff.1 (h r hr)
  rw [RuleSet.resolve, ruleFor?_register, hnone, Option.none_or, fallback_register, typeByFirst]
  simp only [rule_covers]
  cases (registered rules models).find? fun m => (Entry.ofText m.source.dbType).covers type with
  | none => rfl
  | some m => rfl

/-! ## Extensions of rules -/

/-- Rules that enumerations extend, and those that come of it. -/
structure IsExtension (rules : RuleSet) (enums : List Enumeration) (extended : RuleSet) :
    Prop where
  /-- The rules there were come first, in their order, and then one for each enumeration that gets
  one, in theirs. -/
  rules_eq : extended.rules
    = rules.rules ++ (registered rules (enums.map ofEnumeration)).map rule
  fallback_eq : extended.fallback = rules.fallback
  namesApart : NamesApart extended.rules
  /-- The enumerations that get a rule are listed in the order of all. -/
  sublist : (registered rules (enums.map ofEnumeration)).Sublist (enums.map ofEnumeration)
  /-- They are the first of each name that is not the name of a rule or of the fallback. -/
  mem_registered : ∀ m, m ∈ registered rules (enums.map ofEnumeration)
    ↔ ∃ i e, enums[i]? = some e ∧ m = ofEnumeration e
      ∧ (e.name ≠ fallbackName ∧ e.name ∉ rules.rules.map (·.name))
      ∧ ∀ other ∈ enums.take i, other.name ≠ e.name
  /-- A type that a rule covered is resolved as before. -/
  resolve_covered : ∀ type, (∃ r ∈ rules.rules, r.covers type = true) →
    ∀ notNull, extended.resolve type notNull = rules.resolve type notNull
  /-- Any other is resolved by the first enumeration with a rule that covers it. -/
  resolve_registered : ∀ type, (∀ r ∈ rules.rules, r.covers type = false) →
    ∀ notNull, extended.resolve type notNull
      = typeByFirst rules (registered rules (enums.map ofEnumeration)) type notNull
  /-- The same enumerations add no rule once more. -/
  again : (enumModels extended enums).2 = extended

theorem mem_registered_ofEnumeration_iff {rules : RuleSet} {enums : List Enumeration}
    {m : EnumModel} :
    m ∈ registered rules (enums.map ofEnumeration)
      ↔ ∃ i e, enums[i]? = some e ∧ m = ofEnumeration e
        ∧ (e.name ≠ fallbackName ∧ e.name ∉ rules.rules.map (·.name))
        ∧ ∀ other ∈ enums.take i, other.name ≠ e.name := by
  simp only [mem_registered_iff, isNew_iff, List.getElem?_map, Option.map_eq_some_iff,
    ← List.map_take, List.forall_mem_map]
  constructor
  · rintro ⟨i, ⟨e, hget, rfl⟩, hnew⟩
    exact ⟨i, e, hget, rfl, hnew⟩
  · rintro ⟨i, e, hget, rfl, hnew⟩
    exact ⟨i, ⟨e, hget, rfl⟩, hnew⟩

/-- Enumerations extend the rules of a list: the rules and the fallback stay and come first, names
stay apart, what a rule covered is resolved as before, the first enumerations of new names cover the
rest in their order, and doing it again changes nothing. -/
theorem isExtension_enumModels {listed : List Rule} {rules : RuleSet}
    (h : RuleSet.ofRules listed = .ok rules) (enums : List Enumeration) :
    IsExtension rules enums (enumModels rules enums).2 where
  rules_eq := congrArg RuleSet.rules (register_eq_append rules (enums.map ofEnumeration))
  fallback_eq := fallback_register rules (enums.map ofEnumeration)
  namesApart := namesApart_register (enums.map ofEnumeration) (RuleSet.namesApart_of_ofRules h)
  sublist := registered_sublist rules (enums.map ofEnumeration)
  mem_registered := fun _ => mem_registered_ofEnumeration_iff
  resolve_covered := fun _ ⟨_, hr, hcovers⟩ notNull =>
    resolve_register_of_covers (enums.map ofEnumeration) hr hcovers notNull
  resolve_registered := fun _ hfree notNull =>
    resolve_register_of_not_covers (enums.map ofEnumeration) hfree notNull
  again := register_register rules (enums.map ofEnumeration)

/-- One rule besides the fallback. -/
def feelings : RuleSet where
  rules := [{
    name := "mood"
    dbTypes := ["mood"]
    notNullType := "Feeling"
    nullableType := "NoFeeling" }]
  fallback := { name := fallbackName, dbTypes := [], notNullType := "Any", nullableType := "NullAny" }

/-- Enumerations, three of which have a name that is taken: one by a rule, one by the fallback and
one by another enumeration. -/
def namesakes : List Enumeration :=
  [("mood", "mood"), ("size", "size"), (fallbackName, "default"), ("size", "other.size")].map
    fun (name, dbType) => { schema := "public", name, dbType, labels := [] }

/-- One of them gets a rule. The type of another with its name goes to the fallback, and the type of
the rule that was there stays with it. -/
theorem isExtension_enumModels_namesakes :
    RuleSet.ofRules (feelings.rules ++ [feelings.fallback]) = .ok feelings
    ∧ (enumModels feelings namesakes).2.rules.map (·.name) = ["mood", "size"]
    ∧ (enumModels feelings namesakes).2.resolve "mood" true = "Feeling"
    ∧ (enumModels feelings namesakes).2.resolve "size" false = "NullSize"
    ∧ (enumModels feelings namesakes).2.resolve "other.size" false = "Any" := by
  have hrules : RuleSet.ofRules (feelings.rules ++ [feelings.fallback]) = .ok feelings := by
    decide +kernel
  have h := isExtension_enumModels hrules namesakes
  refine ⟨hrules, ?_, ?_, ?_, ?_⟩
  · rw [h.rules_eq]
    decide +kernel
  · rw [h.resolve_covered "mood" ⟨feelings.rules[0], by decide +kernel, by decide +kernel⟩]
    decide +kernel
  · rw [h.resolve_registered "size" (by decide +kernel)]
    decide +kernel
  · rw [h.resolve_registered "other.size" (by decide +kernel)]
    decide +kernel

end RowBindings.Model.EnumModel
