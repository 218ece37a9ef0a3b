import Mathlib.Data.List.Induction
import Mathlib.Data.List.Nodup
import RowBindings.Proofs.TypeMap.RuleSet

/-!
# Which lists of rules are rule sets

A list of rules is a rule set just if all its patterns can be read, its names are distinct and one
of them is the name of the fallback. Where it is not, the error tells of the first rule that is at
fault. The rules of a set are those listed, without the fallback, whose place in the list makes no
difference.
-/

namespace RowBindings.TypeMap

/-! ## Entries -/

theorem Entry.ofText_eq_pattern_iff {text source : String} :
    Entry.ofText text = .pattern source ↔ text = "re/" ++ source := by
  rw [← String.toList_inj, String.toList_append]
  have hmark : "re/".toList = patternMark := by decide
  rw [hmark, ofText]
  split
  · next hprefix =>
    obtain ⟨rest, hrest⟩ := List.isPrefixOf_iff_prefix.1 hprefix
    rw [pattern.injEq, ← hrest, List.drop_left, List.append_right_inj, ← String.toList_inj,
      String.toList_ofList]
  · next hprefix =>
    refine ⟨fun h => Entry.noConfusion h, fun h => absurd ?_ hprefix⟩
    rw [h]
    exact List.isPrefixOf_iff_prefix.2 (List.prefix_append _ _)

theorem Entry.ofText_eq_literal_iff {text type : String} :
    Entry.ofText text = .literal type ↔ text = type ∧ ∀ source, text ≠ "re/" ++ source := by
  cases h : Entry.ofText text with
  | pattern source =>
    refine ⟨fun heq => Entry.noConfusion heq, fun ⟨_, hnone⟩ => ?_⟩
    exact absurd (ofText_eq_pattern_iff.1 h) (hnone source)
  | literal other =>
    have hnone : ∀ source, text ≠ "re/" ++ source := by
      intro source heq
      rw [ofText_eq_pattern_iff.2 heq] at h
      cases h
    have hother : other = text := by
      rw [ofText] at h
      split at h
      · cases h
      · exact (literal.inj h).symm
    rw [literal.injEq, hother]
    exact ⟨fun heq => ⟨heq, hnone⟩, fun heq => heq.1⟩

/-- The pattern in an entry, if there is one and it cannot be read. -/
def Entry.unreadable? : Entry → Option String
  | .pattern source => if (Pattern.compile? source).isNone then some source else none
  | .literal _ => none

theorem Entry.unreadable?_ofText_eq_some_iff {text source : String} :
    (Entry.ofText text).unreadable? = some source
      ↔ text = "re/" ++ source ∧ Pattern.compile? source = none := by
  rw [← ofText_eq_pattern_iff]
  cases Entry.ofText text with
  | literal other =>
    constructor
    · intro h
      cases h
    · rintro ⟨h, -⟩
      cases h
  | pattern other =>
    rw [unreadable?, pattern.injEq]
    split
    · next hnone =>
      rw [Option.some.injEq]
      refine ⟨fun heq => ⟨heq, ?_⟩, fun heq => heq.1⟩
      rw [← heq]
      exact Option.isNone_iff_eq_none.1 hnone
    · next hsome =>
      constructor
      · intro h
        cases h
      · rintro ⟨rfl, hnone⟩
        exact absurd (Option.isNone_iff_eq_none.2 hnone) hsome

theorem Entry.unreadable?_ofText_eq_none_iff {text : String} :
    (Entry.ofText text).unreadable? = none
      ↔ ∀ source, text = "re/" ++ source → ∃ p, Pattern.compile? source = some p := by
  simp only [Option.eq_none_iff_forall_ne_some, Ne, unreadable?_ofText_eq_some_iff, not_and,
    ← Option.ne_none_iff_exists']

namespace Rule

/-- A rule covers the types that it lists as they are and those that one of its patterns matches. -/
theorem covers_iff (r : Rule) (type : String) :
    r.covers type = true
      ↔ (type ∈ r.dbTypes ∧ ∀ source, type ≠ "re/" ++ source)
        ∨ ∃ source p, "re/" ++ source ∈ r.dbTypes ∧ Pattern.compile? source = some p
          ∧ p.isMatch type = true := by
  rw [covers, entries, List.any_map, List.any_eq_true]
  constructor
  · rintro ⟨text, htext, hcovers⟩
    rw [Function.comp_apply] at hcovers
    cases hentry : Entry.ofText text with
    | literal other =>
      obtain ⟨rfl, hnone⟩ := Entry.ofText_eq_literal_iff.1 hentry
      rw [hentry, Entry.covers, beq_iff_eq] at hcovers
      rw [← hcovers]
      exact .inl ⟨htext, hnone⟩
    | pattern source =>
      rw [hentry, Entry.covers] at hcovers
      rw [Entry.ofText_eq_pattern_iff.1 hentry] at htext
      split at hcovers
      · next p hp => exact .inr ⟨source, p, htext, hp, hcovers⟩
      · cases hcovers
  · rintro (⟨htype, hnone⟩ | ⟨source, p, hsource, hp, hmatch⟩)
    · refine ⟨type, htype, ?_⟩
      rw [Function.comp_apply, Entry.ofText_eq_literal_iff.2 ⟨rfl, hnone⟩, Entry.covers,
        beq_self_eq_true]
    · refine ⟨"re/" ++ source, hsource, ?_⟩
      rw [Function.comp_apply, Entry.ofText_eq_pattern_iff.2 rfl, Entry.covers, hp]
      exact hmatch

/-! ## Faults -/

/-- Every pattern of the rule can be read. -/
def IsReadable (r : Rule) : Prop :=
  ∀ source, "re/" ++ source ∈ r.dbTypes → ∃ p, Pattern.compile? source = some p

/-- A pattern is the first of the rule that cannot be read. -/
def FirstUnreadable (r : Rule) (source : String) : Prop :=
  ∃ before after, r.dbTypes = before ++ ("re/" ++ source) :: after
    ∧ (∀ other, "re/" ++ other ∈ before → ∃ p, Pattern.compile? other = some p)
    ∧ Pattern.compile? source = none

/-- What is wrong with a rule that follows others: its first pattern that cannot be read or, where
all can be read, a name that one of the others has. -/
inductive Fault (before : List Rule) (r : Rule) : RuleError → Prop
  | pattern {source : String} (h : r.FirstUnreadable source) :
    Fault before r (.badPattern source r.name)
  | name (hreadable : r.IsReadable) (htaken : r.name ∈ before.map (·.name)) :
    Fault before r (.duplicate r.name)

theorem badPattern?_eq_findSome? (r : Rule) :
    r.badPattern? = r.dbTypes.findSome? fun text => (Entry.ofText text).unreadable? := by
  rw [badPattern?, patterns, entries]
  induction r.dbTypes with
  | nil => rfl
  | cons text texts ih =>
    rw [List.map_cons, List.filterMap_cons, List.findSome?_cons]
    cases Entry.ofText text with
    | literal _ => exact ih
    | pattern source =>
      rw [List.find?_cons, Entry.unreadable?]
      cases (Pattern.compile? source).isNone with
      | true => rfl
      | false => exact ih

theorem badPattern?_eq_some_iff {r : Rule} {source : String} :
    r.badPattern? = some source ↔ r.FirstUnreadable source := by
  rw [badPattern?_eq_findSome?, List.findSome?_eq_some_iff, FirstUnreadable]
  simp only [Entry.unreadable?_ofText_eq_some_iff, Entry.unreadable?_ofText_eq_none_iff]
  constructor
  · rintro ⟨before, text, after, htypes, ⟨rfl, hnone⟩, hbefore⟩
    exact ⟨before, after, htypes, fun other hother => hbefore _ hother other rfl, hnone⟩
  · rintro ⟨before, after, htypes, hbefore, hnone⟩
    refine ⟨before, _, after, htypes, ⟨rfl, hnone⟩, ?_⟩
    rintro _ hmem other rfl
    exact hbefore other hmem

theorem badPattern?_eq_none_iff {r : Rule} : r.badPattern? = none ↔ r.IsReadable := by
  rw [badPattern?_eq_findSome?, List.findSome?_eq_none_iff, IsReadable]
  simp only [Entry.unreadable?_ofText_eq_none_iff]
  constructor
  · exact fun h source hsource => h _ hsource source rfl
  · rintro h _ hmem source rfl
    exact h source hmem

end Rule

namespace RuleSet

open Rule

/-- A list of rules none of which is at fault: their patterns can be read and their names are
distinct. -/
structure Faultless (rules : List Rule) : Prop where
  readable : ∀ r ∈ rules, r.IsReadable
  nodup : (rules.map (·.name)).Nodup

/-- An error tells of the first rule of a list that is at fault. -/
def FirstFault (rules : List Rule) (e : RuleError) : Prop :=
  ∃ before r after, rules = before ++ r :: after ∧ Faultless before ∧ r.Fault before e

theorem faultless_nil : Faultless [] :=
  ⟨fun _ h => absurd h List.not_mem_nil, List.nodup_nil⟩

theorem faultless_concat_iff {rules : List Rule} {r : Rule} :
    Faultless (rules ++ [r])
      ↔ Faultless rules ∧ r.IsReadable ∧ r.name ∉ rules.map (·.name) := by
  have hnodup : ((rules ++ [r]).map (·.name)).Nodup
      ↔ (rules.map (·.name)).Nodup ∧ r.name ∉ rules.map (·.name) := by
    rw [List.map_append, List.map_singleton, ← List.concat_eq_append, List.nodup_concat, and_comm]
  constructor
  · rintro ⟨hreadable, hnames⟩
    rw [List.forall_mem_append, List.forall_mem_singleton] at hreadable
    exact ⟨⟨hreadable.1, (hnodup.1 hnames).1⟩, hreadable.2, (hnodup.1 hnames).2⟩
  · rintro ⟨⟨hreadable, hnames⟩, hr, hfree⟩
    refine ⟨?_, hnodup.2 ⟨hnames, hfree⟩⟩
    rw [List.forall_mem_append, List.forall_mem_singleton]
    exact ⟨hreadable, hr⟩

/-- A rule that follows others is at fault, or it is not. -/
theorem exists_fault_or_free (before : List Rule) (r : Rule) :
    (∃ e, r.Fault before e) ∨ (r.IsReadable ∧ r.name ∉ before.map (·.name)) := by
  cases hbad : r.badPattern? with
  | some source => exact .inl ⟨_, .pattern (badPattern?_eq_some_iff.1 hbad)⟩
  | none =>
    have hreadable := badPattern?_eq_none_iff.1 hbad
    by_cases htaken : r.name ∈ before.map (·.name)
    · exact .inl ⟨_, .name hreadable htaken⟩
    · exact .inr ⟨hreadable, htaken⟩

/-- Either no rule of a list is at fault or one is the first. -/
theorem faultless_or_firstFault (rules : List Rule) :
    Faultless rules ∨ ∃ e, FirstFault rules e := by
  induction rules using List.reverseRecOn with
  | nil => exact .inl faultless_nil
  | append_singleton rules r ih =>
    -- the last rule counts only if no other is at fault
    rcases ih with hfaultless | ⟨e, before, other, after, rfl, hbefore, hfault⟩
    · rcases exists_fault_or_free rules r with ⟨e, hfault⟩ | hfree
      · exact .inr ⟨e, rules, r, [], rfl, hfaultless, hfault⟩
      · exact .inl (faultless_concat_iff.2 ⟨hfaultless, hfree⟩)
    · refine .inr ⟨e, before, other, after ++ [r], ?_, hbefore, hfault⟩
      rw [List.append_assoc, List.cons_append]

/-! ## Gathering rules -/

/-- The rules of a list that are not the fallback. -/
def others (rules : List Rule) : List Rule :=
  rules.filter (·.name != fallbackName)

/-- The fallback among the rules of a list. -/
def fallback? (rules : List Rule) : Option Rule :=
  rules.find? (·.name == fallbackName)

theorem others_concat (rules : List Rule) (r : Rule) :
    others (rules ++ [r])
      = if r.name = fallbackName then others rules else others rules ++ [r] := by
  rw [others, others, List.filter_append, List.filter_cons, List.filter_nil]
  by_cases h : r.name = fallbackName
  · rw [if_pos h, if_neg (by rwa [bne_iff_ne, not_not]), List.append_nil]
  · rw [if_neg h, if_pos (by rwa [bne_iff_ne])]

theorem fallback?_isSome_iff {rules : List Rule} :
    (fallback? rules).isSome = true ↔ fallbackName ∈ rules.map (·.name) := by
  rw [fallback?, List.find?_isSome, List.mem_map]
  simp only [beq_iff_eq]

theorem mem_of_fallback? {rules : List Rule} {r : Rule} (h : fallback? rules = some r) :
    r ∈ rules ∧ r.name = fallbackName := by
  rw [fallback?] at h
  have hname := List.find?_some h
  rw [beq_iff_eq] at hname
  exact ⟨List.mem_of_find?_eq_some h, hname⟩

theorem mem_names_others_iff {rules : List Rule} {name : String} (hne : name ≠ fallbackName) :
    name ∈ (others rules).map (·.name) ↔ name ∈ rules.map (·.name) := by
  simp only [others, List.mem_map, List.mem_filter, bne_iff_ne]
  constructor
  · rintro ⟨r, ⟨hr, -⟩, hname⟩
    exact ⟨r, hr, hname⟩
  · rintro ⟨r, hr, rfl⟩
    exact ⟨r, ⟨hr, hne⟩, rfl⟩

/-- A rule that is not at fault is put to the others, or kept as the fallback. -/
theorem gather_of_free {before : List Rule} {r : Rule} (hreadable : r.IsReadable)
    (hfree : r.name ∉ before.map (·.name)) (rest : List Rule) :
    gather (others before) (fallback? before) (r :: rest)
      = gather (others (before ++ [r])) (fallback? (before ++ [r])) rest := by
  rw [gather, badPattern?_eq_none_iff.2 hreadable, others_concat]
  by_cases hname : r.name = fallbackName
  · -- its name would be taken if there was a fallback
    have hnone : fallback? before = none := by
      rw [← Option.not_isSome_iff_eq_none, fallback?_isSome_iff, ← hname]
      exact hfree
    have hfound : fallback? (before ++ [r]) = some r := by
      rw [fallback?] at hnone
      rw [fallback?, List.find?_append, hnone, Option.none_or, List.find?_singleton,
        if_pos (beq_iff_eq.2 hname)]
    rw [hnone, hfound]
    simp only [hname, if_true, Option.isSome_none, Bool.false_eq_true, if_false]
  · have hany : (others before).any (·.name == r.name) = false := by
      rw [any_name_eq_false_iff, mem_names_others_iff hname]
      exact hfree
    have hkept : fallback? (before ++ [r]) = fallback? before := by
      rw [fallback?, List.find?_append, List.find?_singleton,
        if_neg (by rwa [beq_iff_eq]), Option.or_none, fallback?]
    rw [hkept]
    simp only [hname, if_false, hany, Bool.false_eq_true]

/-- A rule that is at fault ends the gathering with its error. -/
theorem gather_of_fault {before : List Rule} {r : Rule} {e : RuleError} (h : r.Fault before e)
    (rest : List Rule) : gather (others before) (fallback? before) (r :: rest) = .error e := by
  cases h with
  | pattern hbad => rw [gather, badPattern?_eq_some_iff.2 hbad]
  | name hreadable htaken =>
    rw [gather, badPattern?_eq_none_iff.2 hreadable]
    by_cases hname : r.name = fallbackName
    · have hsome : (fallback? before).isSome = true := by
        rw [fallback?_isSome_iff, ← hname]
        exact htaken
      simp only [hname, if_true, hsome]
    · have hany : (others before).any (·.name == r.name) = true := by
        rw [← Bool.not_eq_false, any_name_eq_false_iff, mem_names_others_iff hname, not_not]
        exact htaken
      simp only [hname, if_false, hany, if_true]

/-- Rules of which none is at fault are gathered, and the rest of the list after them. -/
theorem gather_append {before : List Rule} (h : Faultless before) (rest : List Rule) :
    gather [] none (before ++ rest) = gather (others before) (fallback? before) rest := by
  induction before using List.reverseRecOn generalizing rest with
  | nil => rfl
  | append_singleton before r ih =>
    obtain ⟨hbefore, hreadable, hfree⟩ := faultless_concat_iff.1 h
    rw [List.append_assoc, List.singleton_append, ih hbefore, gather_of_free hreadable hfree]

theorem ofRules_of_firstFault {rules : List Rule} {e : RuleError} (h : FirstFault rules e) :
    ofRules rules = .error e := by
  obtain ⟨before, r, after, rfl, hbefore, hfault⟩ := h
  rw [ofRules, gather_append hbefore, gather_of_fault hfault]

theorem ofRules_of_faultless {rules : List Rule} (h : Faultless rules) :
    ofRules rules
      = match fallback? rules with
        | none => .error .noFallback
        | some fallback => .ok { rules := others rules, fallback } := by
  have hgather := gather_append h []
  rw [List.append_nil, gather] at hgather
  rw [ofRules, hgather]
  cases fallback? rules with
  | none => rfl
  | some fallback => rfl

/-- What a list of rules becomes, in all cases. -/
theorem ofRules_cases (rules : List Rule) :
    (∃ e, FirstFault rules e ∧ ofRules rules = .error e)
    ∨ (Faultless rules ∧ fallbackName ∉ rules.map (·.name) ∧ ofRules rules = .error .noFallback)
    ∨ ∃ fallback, Faultless rules ∧ fallback? rules = some fallback
      ∧ ofRules rules = .ok { rules := others rules, fallback } := by
  rcases faultless_or_firstFault rules with hfaultless | ⟨e, hfault⟩
  · have hrules := ofRules_of_faultless hfaultless
    cases hfind : fallback? rules with
    | none =>
      rw [hfind] at hrules
      refine .inr (.inl ⟨hfaultless, ?_, hrules⟩)
      rw [← fallback?_isSome_iff, hfind]
      exact Bool.false_ne_true
    | some fallback =>
      rw [hfind] at hrules
      exact .inr (.inr ⟨fallback, hfaultless, rfl, hrules⟩)
  · exact .inl ⟨e, hfault, ofRules_of_firstFault hfault⟩

theorem exists_fallback_of_ok {rules : List Rule} {s : RuleSet} (h : ofRules rules = .ok s) :
    ∃ fallback, Faultless rules ∧ fallback? rules = some fallback
      ∧ s = { rules := others rules, fallback } := by
  rcases ofRules_cases rules with ⟨e, -, he⟩ | ⟨-, -, he⟩ | ⟨fallback, hfaultless, hfound, hok⟩
  · rw [he] at h
    cases h
  · rw [he] at h
    cases h
  · rw [hok] at h
    exact ⟨fallback, hfaultless, hfound, (Except.ok.inj h).symm⟩

/-- Which lists of rules are rule sets. -/
theorem exists_ofRules_eq_ok_iff (rules : List Rule) :
    (∃ s, ofRules rules = .ok s)
      ↔ (∀ r ∈ rules, r.IsReadable) ∧ (rules.map (·.name)).Nodup
        ∧ fallbackName ∈ rules.map (·.name) := by
  rw [← fallback?_isSome_iff]
  constructor
  · rintro ⟨s, hs⟩
    obtain ⟨fallback, hfaultless, hfound, -⟩ := exists_fallback_of_ok hs
    exact ⟨hfaultless.readable, hfaultless.nodup, Option.isSome_iff_exists.2 ⟨fallback, hfound⟩⟩
  · rintro ⟨hreadable, hnodup, hsome⟩
    obtain ⟨fallback, hfound⟩ := Option.isSome_iff_exists.1 hsome
    refine ⟨⟨others rules, fallback⟩, ?_⟩
    rw [ofRules_of_faultless ⟨hreadable, hnodup⟩, hfound]

/-- Which error is given for a list of rules that is none. -/
theorem ofRules_eq_error_iff (rules : List Rule) (e : RuleError) :
    ofRules rules = .error e
      ↔ FirstFault rules e
        ∨ (Faultless rules ∧ fallbackName ∉ rules.map (·.name) ∧ e = .noFallback) := by
  constructor
  · intro he
    rcases ofRules_cases rules with ⟨e', hfault, he'⟩ | ⟨hfaultless, hmissing, he'⟩ |
      ⟨fallback, -, -, hok⟩
    · rw [he, Except.error.injEq] at he'
      exact .inl (he' ▸ hfault)
    · rw [he, Except.error.injEq] at he'
      exact .inr ⟨hfaultless, hmissing, he'⟩
    · rw [hok] at he
      cases he
  · rintro (hfault | ⟨hfaultless, hmissing, rfl⟩)
    · exact ofRules_of_firstFault hfault
    · have hnone : fallback? rules = none := by
        rwa [← Option.not_isSome_iff_eq_none, fallback?_isSome_iff]
      rw [ofRules_of_faultless hfaultless, hnone]

/-- A rule set is made of the rules listed. -/
theorem mem_of_ofRules_eq_ok {rules : List Rule} {s : RuleSet} (h : ofRules rules = .ok s) :
    ∀ r ∈ s.fallback :: s.rules, r ∈ rules := by
  obtain ⟨fallback, -, hfound, rfl⟩ := exists_fallback_of_ok h
  refine List.forall_mem_cons.2 ⟨(mem_of_fallback? hfound).1, fun r hr => ?_⟩
  exact List.mem_of_mem_filter hr

/-! ## The place of the fallback -/

theorem Faultless.perm {rules moved : List Rule} (h : Faultless rules) (hperm : rules.Perm moved) :
    Faultless moved where
  readable := fun r hr => h.readable r (hperm.mem_iff.2 hr)
  nodup := (hperm.map (·.name)).nodup_iff.1 h.nodup

theorem fallback?_of_mem {rules : List Rule} {r : Rule} (h : Faultless rules) (hr : r ∈ rules)
    (hname : r.name = fallbackName) : fallback? rules = some r := by
  have hsome : (fallback? rules).isSome = true := by
    rw [fallback?_isSome_iff, ← hname]
    exact List.mem_map_of_mem hr
  obtain ⟨found, hfound⟩ := Option.isSome_iff_exists.1 hsome
  obtain ⟨hmem, hfoundName⟩ := mem_of_fallback? hfound
  rw [hfound, List.inj_on_of_nodup_map h.nodup hmem hr (hfoundName.trans hname.symm)]

/-- A rule set stays what it is when the fallback is listed in another place. -/
theorem ofRules_move_fallback {before after before' after' : List Rule} {r : Rule} {s : RuleSet}
    (hname : r.name = fallbackName) (hothers : before' ++ after' = before ++ after)
    (h : ofRules (before ++ r :: after) = .ok s) : ofRules (before' ++ r :: after') = .ok s := by
  have hperm : (before ++ r :: after).Perm (before' ++ r :: after') :=
    List.perm_middle.trans ((hothers ▸ List.Perm.refl _ : (r :: (before ++ after)).Perm
      (r :: (before' ++ after'))).trans List.perm_middle.symm)
  have hdrop (xs ys : List Rule) : others (xs ++ r :: ys) = others (xs ++ ys) := by
    rw [others, List.filter_append, List.filter_cons_of_neg (by simp [hname]),
      ← List.filter_append, others]
  have hmem (xs ys : List Rule) : r ∈ xs ++ r :: ys :=
    List.mem_append_right xs List.mem_cons_self
  obtain ⟨fallback, hfaultless, hfound, rfl⟩ := exists_fallback_of_ok h
  have hmoved := hfaultless.perm hperm
  rw [fallback?_of_mem hfaultless (hmem before after) hname] at hfound
  rw [ofRules_of_faultless hmoved, fallback?_of_mem hmoved (hmem before' after') hname, hdrop,
    hdrop, hothers, Option.some.inj hfound]

/-- Which lists of rules are rule sets, what the set then consists of and what its rules cover, and
which error is given for the others. -/
theorem ofRules_accepts (rules : List Rule) :
    ((∃ s, ofRules rules = .ok s)
      ↔ (∀ r ∈ rules, r.IsReadable) ∧ (rules.map (·.name)).Nodup
        ∧ fallbackName ∈ rules.map (·.name))
    ∧ (∀ s, ofRules rules = .ok s →
        s.rules = rules.filter (·.name != fallbackName)
        ∧ s.fallback ∈ rules ∧ s.fallback.name = fallbackName
        ∧ (∀ r ∈ s.fallback :: s.rules, r.IsReadable ∧ ∀ type, r.covers type = true
          ↔ (type ∈ r.dbTypes ∧ ∀ source, type ≠ "re/" ++ source)
            ∨ ∃ source p, "re/" ++ source ∈ r.dbTypes ∧ Pattern.compile? source = some p
              ∧ p.isMatch type = true)
        ∧ ∀ before after before' after' r, rules = before ++ r :: after → r.name = fallbackName →
          before' ++ after' = before ++ after → ofRules (before' ++ r :: after') = .ok s)
    ∧ ∀ e, ofRules rules = .error e
      ↔ FirstFault rules e
        ∨ (Faultless rules ∧ fallbackName ∉ rules.map (·.name) ∧ e = .noFallback) := by
  refine ⟨exists_ofRules_eq_ok_iff rules, fun s hs => ?_, ofRules_eq_error_iff rules⟩
  obtain ⟨fallback, hfaultless, hfound, heq⟩ := exists_fallback_of_ok hs
  obtain ⟨hfallback, hname⟩ := mem_of_fallback? hfound
  have hmem := mem_of_ofRules_eq_ok hs
  subst heq
  refine ⟨rfl, hfallback, hname, fun r hr => ?_, ?_⟩
  · exact ⟨hfaultless.readable r (hmem r hr), r.covers_iff⟩
  · rintro before after before' after' r rfl hname hothers
    exact ofRules_move_fallback hname hothers hs

/-- A rule for whole numbers, by a pattern and a type. -/
def numberRule : Rule where
  name := "number"
  dbTypes := ["re/^(small|big)?int", "serial"]
  notNullType := "i64"
  nullableType := "Option<i64>"

/-- A fallback. -/
def bytesRule : Rule where
  name := "default"
  dbTypes := ["*"]
  notNullType := "Vec<u8>"
  nullableType := "Option<Vec<u8>>"

/-- The fallback may be listed first or last. -/
theorem ofRules_accepts_numbers :
    ofRules [bytesRule, numberRule] = .ok { rules := [numberRule], fallback := bytesRule }
    ∧ ofRules [numberRule, bytesRule] = .ok { rules := [numberRule], fallback := bytesRule }
    ∧ numberRule.covers "serial" = true := by
  have hfirst : ofRules [bytesRule, numberRule]
      = .ok { rules := [numberRule], fallback := bytesRule } := rfl
  obtain ⟨-, -, -, hcovers, hmove⟩ := (ofRules_accepts _).2.1 _ hfirst
  have hserial : Entry.ofText "serial" = .literal "serial" := by decide
  refine ⟨hfirst, hmove [] [numberRule] [numberRule] [] bytesRule rfl rfl rfl, ?_⟩
  exact ((hcovers numberRule (by simp)).2 "serial").2
    (.inl ⟨by decide, (Entry.ofText_eq_literal_iff.1 hserial).2⟩)

end RuleSet

end RowBindings.TypeMap
