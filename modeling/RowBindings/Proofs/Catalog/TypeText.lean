import RowBindings.Catalog.TypeText
import RowBindings.Proofs.Text.Words

/-!
# Types without modifiers

Which types are left as they are when modifiers are stripped: those without parentheses whose words
have one blank between them. Stripping drops parentheses and joins blanks wherever they stand, in
quoted names as well, so that not every name of a type is left as it is.
-/

namespace RowBindings

namespace Catalog

open Unicode

/-- No parenthesis is left. -/
theorem ne_paren_of_mem_outsideParens {c : Char} {depth : Nat} {cs : List Char}
    (h : c ∈ outsideParens depth cs) : c ≠ '(' ∧ c ≠ ')' := by
  induction cs generalizing depth with
  | nil => cases h
  | cons d cs ih =>
    rw [outsideParens] at h
    split at h
    · exact ih h
    · next hopen =>
      split at h
      · exact ih h
      · next hclose =>
        split at h
        · rcases List.mem_cons.1 h with rfl | h
          · exact ⟨hopen, hclose⟩
          · exact ih h
        · exact ih h

theorem outsideParens_eq_self {cs : List Char} (h : ∀ c ∈ cs, c ≠ '(' ∧ c ≠ ')') :
    outsideParens 0 cs = cs := by
  induction cs with
  | nil => rfl
  | cons c cs ih =>
    rw [List.forall_mem_cons] at h
    rw [outsideParens, if_neg h.1.1, if_neg h.1.2, if_pos rfl, ih h.2]

/-- Whether a type has no parentheses and single blanks between its words. -/
def IsPlain (text : String) : Prop :=
  (∀ c ∈ text.toList, c ≠ '(' ∧ c ≠ ')')
  ∧ ∃ words, (∀ w ∈ words, IsWord w) ∧ text.toList = Text.joinWith [' '] words

/-- What stripping leaves is plain, whatever the text was. -/
theorem isPlain_stripModifiers (text : String) : IsPlain (stripModifiers text) := by
  have hwords := blankSeparatedAux_spec [] (fun _ h => nomatch h)
    (outsideParens 0 text.toList)
  rw [IsPlain, stripModifiers, String.toList_ofList]
  refine ⟨fun c hc => ?_, _, fun w hw => (hwords w hw).1, rfl⟩
  rcases Text.mem_joinWith hc with hc | ⟨w, hw, hc⟩
  · rw [List.mem_singleton.1 hc]
    decide
  · rcases (hwords w hw).2 c hc with hc | hc
    · cases hc
    · exact ne_paren_of_mem_outsideParens hc

theorem stripModifiers_of_isPlain {text : String} (h : IsPlain text) :
    stripModifiers text = text := by
  obtain ⟨hparens, words, hwords, htext⟩ := h
  rw [stripModifiers, outsideParens_eq_self hparens, htext, blankSeparated_joinWith hwords,
    ← htext, String.ofList_toList]

/-- The types that stripping leaves as they are. -/
theorem stripModifiers_eq_self_iff (text : String) :
    stripModifiers text = text ↔ IsPlain text :=
  ⟨fun h => h ▸ isPlain_stripModifiers text, stripModifiers_of_isPlain⟩

end Catalog

end RowBindings
