import Mathlib.Data.List.Infix
import RowBindings.Text.Cut

/-!
# Where a text is cut

A text is cut at the first place of a mark: what comes before it does not have the mark, also not
together with the start of the mark. It is cut at the last place of a character: what comes behind
does not have that character.
-/

namespace RowBindings.Text

variable {mark before after cs : List Char} {c : Char}

/-! ## At the first place of a mark -/

theorem cutAtFirst?_eq_none_iff (hmark : mark ≠ []) :
    cutAtFirst? mark cs = none ↔ ¬ mark <:+: cs := by
  induction cs with
  | nil =>
    rw [cutAtFirst?, if_neg (by rwa [List.isEmpty_iff]), List.infix_nil]
    exact iff_of_true rfl hmark
  | cons c cs ih =>
    rw [cutAtFirst?, List.infix_cons_iff, not_or, ← ih, ← List.isPrefixOf_iff_prefix]
    cases mark.isPrefixOf (c :: cs) <;> simp

theorem dropLast_prefix_append (before mark after : List Char) :
    before ++ mark.dropLast <+: before ++ mark ++ after := by
  rw [List.append_assoc, List.prefix_append_right_inj]
  exact (List.dropLast_prefix mark).trans (List.prefix_append mark after)

/-- The mark is not found before a place if it neither stands before it nor starts there. -/
theorem cutAtFirst?_append (hmark : mark ≠ []) (h : ¬ mark <:+: before ++ mark.dropLast) :
    cutAtFirst? mark (before ++ mark ++ after) = some (before, after) := by
  induction before with
  | nil =>
    have hfound : mark.isPrefixOf (mark ++ after) = true :=
      List.isPrefixOf_iff_prefix.2 (List.prefix_append mark after)
    cases mark with
    | nil => exact absurd rfl hmark
    | cons m mark =>
      rw [List.cons_append] at hfound
      rw [List.nil_append, List.cons_append, cutAtFirst?, if_pos hfound, List.length_cons,
        List.drop_succ_cons, List.drop_left]
  | cons c before ih =>
    rw [List.cons_append, List.infix_cons_iff, not_or] at h
    have hlater : ¬ mark <+: c :: (before ++ mark ++ after) := by
      intro hfound
      have hwithin : c :: (before ++ mark.dropLast) <+: c :: (before ++ mark ++ after) :=
        (List.prefix_cons_inj c).2 (dropLast_prefix_append before mark after)
      refine h.1 (List.prefix_of_prefix_length_le hfound hwithin ?_)
      rw [List.length_cons, List.length_append, List.length_dropLast]
      omega
    rw [List.cons_append, List.cons_append, cutAtFirst?,
      if_neg (by rwa [List.isPrefixOf_iff_prefix]), ih h.2]
    rfl

theorem eq_append_of_cutAtFirst? (hmark : mark ≠ [])
    (h : cutAtFirst? mark cs = some (before, after)) :
    cs = before ++ mark ++ after ∧ ¬ mark <:+: before ++ mark.dropLast := by
  induction cs generalizing before with
  | nil =>
    rw [cutAtFirst?, if_neg (by rwa [List.isEmpty_iff])] at h
    cases h
  | cons c cs ih =>
    rw [cutAtFirst?] at h
    split at h
    · next hfound =>
      cases h
      obtain ⟨rest, hrest⟩ := List.isPrefixOf_iff_prefix.1 hfound
      refine ⟨by rw [← hrest, List.drop_left]; rfl, fun hinside => ?_⟩
      -- the mark is longer than what is left of it without its end
      have hlength := hinside.length_le
      rw [List.nil_append, List.length_dropLast] at hlength
      have hpos := List.length_pos_of_ne_nil hmark
      omega
    · next hfound =>
      obtain ⟨⟨front, back⟩, hcut, heq⟩ := Option.map_eq_some_iff.1 h
      cases heq
      obtain ⟨rfl, hfirst⟩ := ih hcut
      refine ⟨rfl, fun hinside => ?_⟩
      rw [List.cons_append, List.infix_cons_iff] at hinside
      rcases hinside with hstart | hinside
      · refine hfound (List.isPrefixOf_iff_prefix.2 (hstart.trans ?_))
        exact (List.prefix_cons_inj c).2 (dropLast_prefix_append front mark after)
      · exact hfirst hinside

/-- A text is cut where the mark neither stands before the place nor starts there. -/
theorem cutAtFirst?_eq_some_iff (hmark : mark ≠ []) :
    cutAtFirst? mark cs = some (before, after)
      ↔ cs = before ++ mark ++ after ∧ ¬ mark <:+: before ++ mark.dropLast := by
  constructor
  · exact eq_append_of_cutAtFirst? hmark
  · rintro ⟨rfl, h⟩
    exact cutAtFirst?_append hmark h

/-- A text that has a mark can be cut at it. -/
theorem exists_cutAtFirst?_of_infix (hmark : mark ≠ []) (h : mark <:+: cs) :
    ∃ before after, cutAtFirst? mark cs = some (before, after) := by
  cases hcut : cutAtFirst? mark cs with
  | none => exact absurd h ((cutAtFirst?_eq_none_iff hmark).1 hcut)
  | some cut => exact ⟨cut.1, cut.2, rfl⟩

/-- A character is found where it stands first. -/
theorem cutAtFirst?_singleton_append (h : c ∉ before) :
    cutAtFirst? [c] (before ++ c :: after) = some (before, after) := by
  rw [cutAtFirst?_eq_some_iff (List.cons_ne_nil c []), List.dropLast_singleton, List.append_nil,
    List.singleton_infix_iff, List.append_assoc]
  exact ⟨rfl, h⟩

theorem cutAtFirst?_singleton_of_notMem (h : c ∉ cs) : cutAtFirst? [c] cs = none := by
  rw [cutAtFirst?_eq_none_iff (List.cons_ne_nil c []), List.singleton_infix_iff]
  exact h

/-! ## At the last place of a character -/

theorem cutAtLast?_of_notMem (h : c ∉ cs) : cutAtLast? c cs = none := by
  induction cs with
  | nil => rfl
  | cons d cs ih =>
    rw [List.mem_cons, not_or] at h
    rw [cutAtLast?, ih h.2, if_neg (Ne.symm h.1)]

/-- A character is found where it stands last. -/
theorem cutAtLast?_append (h : c ∉ after) :
    cutAtLast? c (before ++ c :: after) = some (before, after) := by
  induction before with
  | nil => rw [List.nil_append, cutAtLast?, cutAtLast?_of_notMem h, if_pos rfl]
  | cons d before ih => rw [List.cons_append, cutAtLast?, ih]

/-- A text with a character can be cut at the last place of it. -/
theorem exists_eq_append_cons_of_mem (h : c ∈ cs) :
    ∃ before after, cs = before ++ c :: after ∧ c ∉ after := by
  obtain ⟨after, before, heq, hafter⟩ := List.eq_append_cons_of_mem (List.mem_reverse.2 h)
  refine ⟨before.reverse, after.reverse, ?_, by rwa [List.mem_reverse]⟩
  rw [← List.reverse_reverse cs, heq]
  simp

end RowBindings.Text
