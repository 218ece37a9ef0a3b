import Mathlib.Data.List.Nodup
import RowBindings.TypeMap.RuleSet

/-!
# The names of rules

The rules of a set are told apart by their names, and the name of the fallback is none of them: a list
of rules is refused otherwise, and a rule that is added under a name that is free keeps it so.
-/

namespace RowBindings.TypeMap

/-- Rules have names of their own, and none has that of the fallback. -/
structure NamesApart (rules : List Rule) : Prop where
  nodup : (rules.map (·.name)).Nodup
  fallbackName_notMem : fallbackName ∉ rules.map (·.name)

theorem namesApart_nil : NamesApart [] :=
  ⟨List.nodup_nil, List.not_mem_nil⟩

theorem NamesApart.concat {rules : List Rule} {r : Rule} (h : NamesApart rules)
    (hne : r.name ≠ fallbackName) (hfree : r.name ∉ rules.map (·.name)) :
    NamesApart (rules ++ [r]) where
  nodup := by
    rw [List.map_append, List.map_singleton, ← List.concat_eq_append]
    exact h.nodup.concat hfree
  fallbackName_notMem := by
    rw [List.map_append, List.mem_append, not_or]
    exact ⟨h.fallbackName_notMem, fun hmem => hne (List.mem_singleton.1 hmem).symm⟩

theorem any_name_eq_false_iff {rules : List Rule} {name : String} :
    rules.any (·.name == name) = false ↔ name ∉ rules.map (·.name) := by
  rw [← Bool.not_eq_true, List.any_eq_true, List.mem_map]
  simp only [beq_iff_eq]

namespace RuleSet

theorem contains_eq_false_iff {s : RuleSet} {name : String} :
    s.contains name = false ↔ name ≠ fallbackName ∧ name ∉ s.rules.map (·.name) := by
  rw [contains, Bool.or_eq_false_iff, beq_eq_false_iff_ne, any_name_eq_false_iff]

theorem contains_push (s : RuleSet) (r : Rule) (name : String) :
    (s.push r).contains name = (s.contains name || r.name == name) := by
  simp [contains, push, Bool.or_assoc]

theorem namesApart_push {s : RuleSet} {r : Rule} (h : NamesApart s.rules)
    (hname : s.contains r.name = false) : NamesApart (s.push r).rules :=
  have hfree := contains_eq_false_iff.1 hname
  h.concat hfree.1 hfree.2

/-- Rules that are gathered keep their names apart, rule by rule. -/
theorem namesApart_gather {ordered rest gathered : List Rule} {fallback found : Option Rule}
    (hordered : NamesApart ordered)
    (h : gather ordered fallback rest = .ok (gathered, found)) : NamesApart gathered := by
  fun_induction gather ordered fallback rest with
  | case1 ordered fallback =>
    cases h
    exact hordered
  | case2 => cases h
  | case3 => cases h
  | case4 ordered fallback r rest hpattern hname hnone ih => exact ih hordered h
  | case5 => cases h
  | case6 ordered fallback r rest hpattern hname hfree ih =>
    exact ih (hordered.concat hname (any_name_eq_false_iff.1 (Bool.eq_false_iff.2 hfree))) h

/-- A list of rules that is a rule set names them apart. -/
theorem namesApart_of_ofRules {rules : List Rule} {s : RuleSet} (h : ofRules rules = .ok s) :
    NamesApart s.rules := by
  unfold ofRules at h
  split at h
  · cases h
  · cases h
  · next hgather =>
    cases h
    exact namesApart_gather namesApart_nil hgather

/-- No rules but the fallback, which gives one type. -/
def ofFallback (type : String) : RuleSet where
  rules := []
  fallback := { name := fallbackName, dbTypes := [], notNullType := type, nullableType := type }

end RuleSet

end RowBindings.TypeMap
