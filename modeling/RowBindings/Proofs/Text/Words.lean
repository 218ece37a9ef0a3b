import RowBindings.Text.Words
import RowBindings.Unicode.Blank

/-!
# Words put together

The characters of texts put together are those of the texts and of what stands between them. Words
with blanks between them come apart again where the blanks are.
-/

namespace RowBindings

namespace Text

/-- A character of texts put together stands between them or in one of them. -/
theorem mem_joinWith {sep : List Char} {c : Char} {texts : List (List Char)}
    (h : c ∈ joinWith sep texts) : c ∈ sep ∨ ∃ text ∈ texts, c ∈ text := by
  induction texts with
  | nil => cases h
  | cons text texts ih =>
    cases texts with
    | nil => exact Or.inr ⟨text, List.mem_cons_self, h⟩
    | cons next texts =>
      rw [joinWith, List.mem_append, List.mem_append] at h
      · rcases h with (h | h) | h
        · exact Or.inr ⟨text, List.mem_cons_self, h⟩
        · exact Or.inl h
        · rcases ih h with h | ⟨other, hother, h⟩
          · exact Or.inl h
          · exact Or.inr ⟨other, List.mem_cons_of_mem text hother, h⟩
      · exact List.cons_ne_nil next texts

end Text

namespace Unicode

/-- A run of characters that are not white space. -/
structure IsWord (w : List Char) : Prop where
  ne_nil : w ≠ []
  isBlank_eq_false : ∀ c ∈ w, isBlank c = false

theorem isBlank_space : isBlank ' ' = true := by decide

/-- Characters that are not white space are added to the run being read. -/
theorem blankSeparatedAux_append {w : List Char} (hw : ∀ c ∈ w, isBlank c = false)
    (word rest : List Char) :
    blankSeparatedAux word (w ++ rest) = blankSeparatedAux (w.reverse ++ word) rest := by
  induction w generalizing word with
  | nil => rfl
  | cons c w ih =>
    rw [List.forall_mem_cons] at hw
    rw [List.cons_append, blankSeparatedAux, hw.1, if_neg Bool.false_ne_true, ih hw.2,
      List.reverse_cons, List.append_assoc]
    rfl

/-- Words joined by blanks come apart again. -/
theorem blankSeparated_joinWith {words : List (List Char)} (hwords : ∀ w ∈ words, IsWord w) :
    blankSeparated (Text.joinWith [' '] words) = words := by
  induction words with
  | nil => rfl
  | cons w words ih =>
    rw [List.forall_mem_cons] at hwords
    obtain ⟨hw, hwords⟩ := hwords
    have hreverse : (w.reverse ++ []).isEmpty = false := by
      rw [List.append_nil, List.isEmpty_eq_false_iff, Ne, List.reverse_eq_nil_iff]
      exact hw.ne_nil
    -- only a word that is not the last one has a blank after it
    cases words with
    | nil =>
      have hread := blankSeparatedAux_append hw.isBlank_eq_false [] []
      rw [List.append_nil] at hread
      rw [Text.joinWith, blankSeparated, hread, blankSeparatedAux, hreverse,
        if_neg Bool.false_ne_true, List.append_nil, List.reverse_reverse]
    | cons next words =>
      have hnext := ih hwords
      rw [blankSeparated] at hnext
      rw [Text.joinWith, blankSeparated, List.append_assoc,
        blankSeparatedAux_append hw.isBlank_eq_false, List.singleton_append, blankSeparatedAux,
        isBlank_space, if_pos rfl, hreverse, if_neg Bool.false_ne_true, hnext, List.append_nil,
        List.reverse_reverse]
      exact fun hnil => List.cons_ne_nil next words hnil

theorem isWord_reverse {word : List Char} (hword : ∀ c ∈ word, isBlank c = false)
    (hne : ¬word.isEmpty) : IsWord word.reverse where
  ne_nil := by
    rw [Ne, List.reverse_eq_nil_iff, ← List.isEmpty_iff]
    exact hne
  isBlank_eq_false := fun c hc => hword c (List.mem_reverse.1 hc)

/-- What is read apart is made of the characters read, none of which is white space. -/
theorem blankSeparatedAux_spec (word : List Char) (hword : ∀ c ∈ word, isBlank c = false)
    (cs : List Char) :
    ∀ w ∈ blankSeparatedAux word cs, IsWord w ∧ ∀ c ∈ w, c ∈ word ∨ c ∈ cs := by
  -- `word` holds the characters of the run read so far, in reverse
  induction cs generalizing word with
  | nil =>
    intro w hw
    rw [blankSeparatedAux] at hw
    split at hw
    · cases hw
    · next hne =>
      rw [List.mem_singleton] at hw
      subst hw
      exact ⟨isWord_reverse hword hne, fun c hc => Or.inl (List.mem_reverse.1 hc)⟩
  | cons c cs ih =>
    have hrest : ∀ w ∈ blankSeparatedAux [] cs, IsWord w ∧ ∀ d ∈ w, d ∈ word ∨ d ∈ c :: cs := by
      intro w hw
      obtain ⟨hisWord, hmem⟩ := ih [] (fun _ h => nomatch h) w hw
      refine ⟨hisWord, fun d hd => Or.inr (List.mem_cons_of_mem c ?_)⟩
      exact (hmem d hd).resolve_left List.not_mem_nil
    intro w hw
    rw [blankSeparatedAux] at hw
    split at hw
    · split at hw
      · exact hrest w hw
      · next hne =>
        rcases List.mem_cons.1 hw with rfl | hw
        · exact ⟨isWord_reverse hword hne, fun d hd => Or.inl (List.mem_reverse.1 hd)⟩
        · exact hrest w hw
    · next hblank =>
      have hcons : ∀ d ∈ c :: word, isBlank d = false :=
        List.forall_mem_cons.2 ⟨Bool.eq_false_iff.2 hblank, hword⟩
      obtain ⟨hisWord, hmem⟩ := ih (c :: word) hcons w hw
      refine ⟨hisWord, fun d hd => ?_⟩
      rcases hmem d hd with hd | hd
      · rcases List.mem_cons.1 hd with rfl | hd
        · exact Or.inr List.mem_cons_self
        · exact Or.inl hd
      · exact Or.inr (List.mem_cons_of_mem c hd)

end Unicode

end RowBindings
