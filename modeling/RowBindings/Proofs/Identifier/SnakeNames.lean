import RowBindings.Proofs.Identifier.Validity

/-!
# Names in lower case with underscores

A name of small letters, digits and underscores is its own field name, with three exceptions: a
digit in front is guarded by an underscore, a word that cannot be written raw gets one behind it,
and the other words of the language are written raw. Only the first two can lead to the field name
of another such name.
-/

namespace RowBindings.Identifier

/-- Small letters, digits and underscores, at least one of them. -/
def IsSnakeName (name : String) : Prop :=
  name ≠ "" ∧ ∀ c ∈ name.toList, ('a' ≤ c ∧ c ≤ 'z') ∨ ('0' ≤ c ∧ c ≤ '9') ∨ c = '_'

theorem isSnake_iff (name : String) : isSnake name.toList = true ↔ IsSnakeName name := by
  have hclass (c : Char) : (c.isLower || c.isDigit || c == '_') = true
      ↔ ('a' ≤ c ∧ c ≤ 'z') ∨ ('0' ≤ c ∧ c ≤ '9') ∨ c = '_' := by
    rw [Bool.or_eq_true, Bool.or_eq_true, beq_iff_eq, or_assoc, Unicode.isLower_iff,
      Char.isDigit_iff_toNat]
    rfl
  rw [IsSnakeName, isSnake, Bool.and_eq_true, Bool.not_eq_true', List.isEmpty_eq_false_iff,
    List.all_eq_true, Ne, String.toList_eq_nil_iff]
  exact and_congr_right fun _ => forall₂_congr fun c _ => hclass c

theorem ofStem_cons (c : Char) (cs : List Char) :
    ofStem (c :: cs) = escape (String.ofList (c :: cs)) :=
  rfl

/-- A guarded digit keeps a name apart from the words of the language. -/
theorem guarded_notMem_languageWords {name : String}
    (hdigit : name.toList.head?.any Char.isDigit = true) : "_" ++ name ∉ languageWords := by
  have hwords : ∀ w ∈ languageWords, w.toList.head? = some '_' → w.toList.tail = [] := by
    decide
  intro hmem
  have htail := hwords _ hmem (by rw [String.toList_append]; rfl)
  rw [String.toList_append] at htail
  have hnil : name.toList = [] := htail
  rw [hnil] at hdigit
  exact Bool.noConfusion hdigit

/-- Escaping a name in lower case with underscores. -/
theorem escape_of_isSnakeName {name : String} (h : IsSnakeName name) :
    escape name
      = if name ∈ ["crate", "self", "super", "_"] then name ++ "_"
        else if name ∈ languageWords then "r#" ++ name else name := by
  -- the reserved word that is missing here has a capital letter
  have hreserved : ∀ w ∈ reserved, isSnake w.toList = true →
      w ∈ ["crate", "self", "super", "_"] := by decide
  have hkeywords : ∀ w ∈ keywords, w ∉ ["crate", "self", "super", "_"] := by decide
  have hwords : ∀ w ∈ ["crate", "self", "super", "_"], w ∈ languageWords := by decide
  rcases escape_cases name with ⟨hmem, heq, -⟩ | ⟨hmem, heq⟩ | ⟨hfree, heq⟩
  · rw [heq, if_pos (hreserved name hmem ((isSnake_iff name).2 h))]
  · rw [heq, if_neg (hkeywords name hmem), if_pos ((mem_languageWords_iff name).2 (.inr hmem))]
  · rw [heq, if_neg (fun hmem => hfree (hwords name hmem)), if_neg hfree]

/-- A name with a digit in front is guarded, and escaping changes nothing more. -/
theorem fieldName_of_digit {name : String} (h : IsSnakeName name)
    (hdigit : name.toList.head?.any Char.isDigit = true) : fieldName name = "_" ++ name := by
  have hguard := (guardDigit_eq_iff name.toList _).2 (.inr ⟨hdigit, rfl⟩)
  have hguarded : String.ofList ('_' :: name.toList) = "_" ++ name := by
    rw [← String.toList_inj, String.toList_ofList, String.toList_append]
    rfl
  rw [fieldName_eq_ofStem, stem_of_isSnake ((isSnake_iff name).2 h), hguard, ofStem_cons, hguarded]
  exact escape_eq_self (guarded_notMem_languageWords hdigit)

/-- Any other name is only escaped. -/
theorem fieldName_of_not_digit {name : String} (h : IsSnakeName name)
    (hdigit : ¬ name.toList.head?.any Char.isDigit = true) : fieldName name = escape name := by
  obtain ⟨c, cs, hcs⟩ : ∃ c cs, name.toList = c :: cs := by
    apply List.exists_cons_of_ne_nil
    rw [Ne, String.toList_eq_nil_iff]
    exact h.1
  have hguard := (guardDigit_eq_iff name.toList _).2 (.inl ⟨Bool.eq_false_iff.2 hdigit, rfl⟩)
  rw [fieldName_eq_ofStem, stem_of_isSnake ((isSnake_iff name).2 h), hguard, hcs, ofStem_cons,
    ← hcs, String.ofList_toList]

/-- The field name for a name in lower case with underscores, and when two of them have the same. -/
theorem fieldName_of_isSnakeName {a b : String} (ha : IsSnakeName a) (hb : IsSnakeName b) :
    fieldName a
      = (if a.toList.head?.any Char.isDigit then "_" ++ a
        else if a ∈ ["crate", "self", "super", "_"] then a ++ "_"
        else if a ∈ languageWords then "r#" ++ a else a)
    ∧ (a ≠ b → (fieldName a = fieldName b ↔ Yields a b ∨ Yields b a)) := by
  constructor
  · by_cases hdigit : a.toList.head?.any Char.isDigit = true
    · rw [if_pos hdigit, fieldName_of_digit ha hdigit]
    · rw [if_neg hdigit, fieldName_of_not_digit ha hdigit, escape_of_isSnakeName ha]
  · intro hne
    rw [fieldName_eq_iff_of_isSnake ((isSnake_iff a).2 ha) ((isSnake_iff b).2 hb)]
    exact or_iff_right hne

/-- A name with a digit in front and the name that it is guarded to. -/
theorem fieldName_of_isSnakeName_guarded :
    IsSnakeName "2fa" ∧ IsSnakeName "_2fa" ∧ fieldName "2fa" = "_2fa"
    ∧ fieldName "2fa" = fieldName "_2fa" := by
  have ha : IsSnakeName "2fa" := (isSnake_iff _).1 (by decide)
  have hb : IsSnakeName "_2fa" := (isSnake_iff _).1 (by decide)
  obtain ⟨hname, hmeet⟩ := fieldName_of_isSnakeName ha hb
  exact ⟨ha, hb, hname, (hmeet (by decide)).2 (.inl (.inl ⟨by decide, rfl⟩))⟩

end RowBindings.Identifier
