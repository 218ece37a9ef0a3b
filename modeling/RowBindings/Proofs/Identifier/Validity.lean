import RowBindings.Proofs.Model.FieldNames
import RowBindings.Proofs.Model.Variants
import RowBindings.Proofs.Text.LetterCase
import RowBindings.Source.Lexer

/-!
# Valid identifiers

Whatever a name of the database is made of, the type name and the field name made from it are
identifiers of the generated source: of the right form, and none of the words that the language
keeps for itself. Names of types stay valid when they are put together to further names.
-/

namespace RowBindings

namespace Identifier

open Model

/-! ## What an identifier is -/

/-- The words that are no identifiers, an underscore alone among them. The last editions of the
language keep one more than its grammar of source text does. -/
def languageWords : List String :=
  "gen" :: Source.Tree.keywords

/-- A character of one class, and after it characters of another. -/
def HasForm (first further : Char → Bool) (name : String) : Prop :=
  ∃ c cs, name.toList = c :: cs ∧ first c = true ∧ cs.all further = true

/-- A plain identifier without a small letter in front. -/
structure IsTypeIdentifier (name : String) : Prop where
  form : HasForm (fun c => c.isUpper || c == '_') (fun c => c.isAlphanum || c == '_') name
  notMem : name ∉ languageWords

/-- A plain identifier without capital letters. -/
structure IsFieldIdentifier (name : String) : Prop where
  form : HasForm (fun c => c.isLower || c == '_') (fun c => c.isLower || c.isDigit || c == '_') name
  notMem : name ∉ languageWords

/-- A word of the language made an identifier by `r#`, which may stand before it. -/
def IsRawIdentifier (name : String) : Prop :=
  ∃ word ∈ languageWords, word ∉ Source.neverRaw ∧ name = "r#" ++ word

/-- The words that names are kept apart from are the words of the language. -/
theorem mem_languageWords_iff (name : String) :
    name ∈ languageWords ↔ name ∈ reserved ∨ name ∈ keywords := by
  have hwords : ∀ w ∈ languageWords, w ∈ reserved ∨ w ∈ keywords := by decide
  have hreserved : ∀ w ∈ reserved, w ∈ languageWords := by decide
  have hkeywords : ∀ w ∈ keywords, w ∈ languageWords := by decide
  constructor
  · exact hwords name
  · rintro (h | h)
    · exact hreserved name h
    · exact hkeywords name h

/-- What escaping does: no word of the language is left, unless `r#` is written before it. -/
theorem escape_cases (name : String) :
    (name ∈ reserved ∧ escape name = name ++ "_" ∧ name ++ "_" ∉ languageWords)
    ∨ (name ∈ keywords ∧ escape name = "r#" ++ name)
    ∨ (name ∉ languageWords ∧ escape name = name) := by
  have hfree : ∀ w ∈ reserved, w ++ "_" ∉ languageWords := by decide
  rw [escape, mem_languageWords_iff name, not_or]
  by_cases hreserved : name ∈ reserved
  · rw [if_pos hreserved]
    exact .inl ⟨hreserved, rfl, hfree name hreserved⟩
  · rw [if_neg hreserved]
    by_cases hkeyword : name ∈ keywords
    · rw [if_pos hkeyword]
      exact .inr (.inl ⟨hkeyword, rfl⟩)
    · rw [if_neg hkeyword]
      exact .inr (.inr ⟨⟨hreserved, hkeyword⟩, rfl⟩)

/-- Escaping is for words of the language only. -/
theorem escape_eq_self {name : String} (h : name ∉ languageWords) : escape name = name := by
  rw [mem_languageWords_iff, not_or] at h
  rw [escape, if_neg h.1, if_neg h.2]

theorem HasForm.append {first further : Char → Bool} {name ending : String}
    (h : HasForm first further name) (hending : ending.toList.all further = true) :
    HasForm first further (name ++ ending) := by
  obtain ⟨c, cs, hname, hfirst, hfurther⟩ := h
  refine ⟨c, cs ++ ending.toList, ?_, hfirst, ?_⟩
  · rw [String.toList_append, hname, List.cons_append]
  · rw [List.all_append, hfurther, hending, Bool.and_self]

/-! ## Names of types -/

theorem isAlphanum_of_isUpper {c : Char} (h : c.isUpper = true) : c.isAlphanum = true := by
  rw [Unicode.isAlphanum_eq, h, Bool.true_or, Bool.true_or]

theorem IsTypeIdentifier.all_isPlain {name : String} (h : IsTypeIdentifier name) :
    (name.toList.all fun c => c.isAlphanum || c == '_') = true := by
  obtain ⟨first, rest, hname, hfirst, hrest⟩ := h.form
  rw [hname, List.all_cons, hrest, Bool.and_true]
  rw [Bool.or_eq_true] at hfirst
  rcases hfirst with hupper | hunderscore
  · rw [isAlphanum_of_isUpper hupper, Bool.true_or]
  · rw [hunderscore, Bool.or_true]

/-- No word of the language starts like the name of an optional type. -/
theorem IsTypeIdentifier.nullable {name : String} (h : IsTypeIdentifier name) :
    IsTypeIdentifier (nullableName name) where
  form := by
    refine ⟨'N', "ull".toList ++ name.toList, ?_, by decide, ?_⟩
    · rw [nullableName, String.toList_append]
      rfl
    · rw [List.all_append, h.all_isPlain]
      decide
  notMem := by
    have hwords : ∀ w ∈ languageWords, w.toList.head? ≠ some 'N' := by decide
    intro hmem
    apply hwords _ hmem
    rw [nullableName, String.toList_append]
    rfl

/-- No word of the language has a digit. -/
theorem IsTypeIdentifier.numbered {name : String} (h : IsTypeIdentifier name) (k : Nat) :
    IsTypeIdentifier (name ++ toString k) := by
  have hdigits : ∀ c ∈ (toString k).toList, c.isDigit = true := by
    intro c hc
    rw [Nat.toString_eq_repr, Nat.toList_repr] at hc
    exact Nat.isDigit_of_mem_toDigits (by decide) (by decide) hc
  constructor
  · apply h.form.append
    refine List.all_eq_true.2 fun c hc => ?_
    rw [Char.isAlphanum, hdigits c hc, Bool.or_true, Bool.true_or]
  · have hwords : ∀ w ∈ languageWords, w.toList.any Char.isDigit = false := by decide
    intro hmem
    obtain ⟨c, hc⟩ : ∃ c, c ∈ (toString k).toList := by
      apply List.exists_mem_of_ne_nil
      rw [Nat.toString_eq_repr, Nat.toList_repr]
      exact Nat.toDigits_ne_nil
    have hnone := List.any_eq_false.1 (hwords _ hmem) c (by
      rw [String.toList_append]
      exact List.mem_append_right _ hc)
    exact hnone (hdigits c hc)

/-- No word of the language has an underscore behind its first character. -/
theorem IsTypeIdentifier.joined {name other : String} (h : IsTypeIdentifier name)
    (hother : IsTypeIdentifier other) : IsTypeIdentifier (name ++ "_" ++ other) := by
  constructor
  · refine HasForm.append (h.form.append ?_) hother.all_isPlain
    decide
  · have hwords : ∀ w ∈ languageWords, '_' ∉ w.toList.tail := by decide
    obtain ⟨c, cs, hname, -, -⟩ := h.form
    intro hmem
    apply hwords _ hmem
    rw [String.toList_append, String.toList_append, hname]
    exact List.mem_append_left _ (List.mem_append_right cs List.mem_cons_self)

/-- What is left of a capitalised name does not start with a small letter, nor with a digit. -/
theorem hasForm_sanitize_toPascal {name cs : List Char} {c : Char}
    (h : sanitize (Text.toPascal name) = c :: cs) :
    HasForm (fun c => c.isUpper || c == '_') (fun c => c.isAlphanum || c == '_')
      (String.ofList (c :: cs)) := by
  have hplain := isPlain_of_mem_sanitize (Text.toPascal name)
  rw [h, List.forall_mem_cons] at hplain
  refine ⟨c, cs, String.toList_ofList, ?_, List.all_eq_true.2 hplain.2⟩
  have hhead := Text.isLower_head?_toPascal name
  cases hpascal : Text.toPascal name with
  | nil =>
    rw [hpascal] at h
    cases h
  | cons first rest =>
    -- the first character is guarded if it is a digit, and replaced if no identifier may hold it
    have hfirst := hhead first (by rw [hpascal]; rfl)
    rw [hpascal, sanitize, List.map_cons, guardDigit] at h
    by_cases hkept : isPlain first = true
    · rw [if_pos hkept] at h
      split at h
      · rw [← (List.cons.inj h).1]
        rfl
      · next hdigit =>
        rw [← (List.cons.inj h).1]
        rw [isPlain, Unicode.isAlphanum_eq, hfirst, Bool.eq_false_iff.2 hdigit,
          Bool.or_false, Bool.or_false] at hkept
        exact hkept
    · rw [if_neg hkept, if_neg (by decide)] at h
      rw [← (List.cons.inj h).1]
      rfl

theorem isTypeIdentifier_escape {name : String}
    (h : HasForm (fun c => c.isUpper || c == '_') (fun c => c.isAlphanum || c == '_') name) :
    IsTypeIdentifier (escape name) := by
  rcases escape_cases name with ⟨-, heq, hfree⟩ | ⟨hkeyword, -⟩ | ⟨hfree, heq⟩
  · rw [heq]
    exact ⟨h.append (by decide), hfree⟩
  · -- keywords start with a small letter
    have hhead : ∀ w ∈ keywords, w.toList.head?.any (fun c => c.isUpper || c == '_') = false := by
      decide
    obtain ⟨c, cs, hname, hfirst, -⟩ := h
    have hnone := hhead name hkeyword
    rw [hname, List.head?_cons, Option.any_some] at hnone
    exact Bool.noConfusion (hfirst.symm.trans hnone)
  · rw [heq]
    exact ⟨h, hfree⟩

theorem isTypeIdentifier_typeName (name : String) : IsTypeIdentifier (typeName name) := by
  rw [typeName]
  split
  · exact ⟨⟨'E', "mpty".toList, rfl, by decide, by decide⟩, by decide⟩
  · next cs hne =>
    cases hcs : sanitize (Text.toPascal name.toList) with
    | nil => exact absurd hcs hne
    | cons c cs => exact isTypeIdentifier_escape (hasForm_sanitize_toPascal hcs)

/-! ## Names of fields -/

/-- A letter, digit or underscore that is no capital letter. -/
theorem isLower_or_of_isPlain {c : Char} (hplain : isPlain c = true) (hupper : c.isUpper = false) :
    (c.isLower || c.isDigit || c == '_') = true := by
  rwa [isPlain, Unicode.isAlphanum_eq, hupper, Bool.false_or] at hplain

theorem isUpper_of_isSnake {name : List Char} (h : isSnake name = true) :
    ∀ c ∈ name, c.isUpper = false := by
  intro c hc
  rw [isSnake, Bool.and_eq_true] at h
  have hsnake := List.all_eq_true.1 h.2 c hc
  rw [Bool.or_eq_true, Bool.or_eq_true] at hsnake
  rw [Bool.eq_false_iff, Ne, Unicode.isUpper_iff_toNat]
  intro hupper
  rcases hsnake with (hlower | hdigit) | hunderscore
  · rw [Unicode.isLower_iff_toNat] at hlower
    omega
  · have hcode : 0x30 ≤ c.toNat ∧ c.toNat ≤ 0x39 := Char.isDigit_iff_toNat.1 hdigit
    omega
  · rw [eq_of_beq hunderscore] at hupper
    exact absurd hupper (by decide)

theorem isUpper_of_mem_guardDigit {cs : List Char} (h : ∀ c ∈ cs, c.isUpper = false) :
    ∀ c ∈ guardDigit cs, c.isUpper = false := by
  cases cs with
  | nil => exact h
  | cons first rest =>
    rw [guardDigit]
    split
    · exact List.forall_mem_cons.2 ⟨by decide, h⟩
    · exact h

theorem isUpper_of_mem_stem (name : String) : ∀ c ∈ stem name, c.isUpper = false := by
  apply isUpper_of_mem_guardDigit
  intro c hc
  obtain ⟨d, hd, rfl⟩ := List.mem_map.1 hc
  split
  · -- a character that is kept, of the name itself or of what it is converted to
    split at hd
    · next hsnake => exact isUpper_of_isSnake hsnake d hd
    · exact Text.isUpper_of_mem_toSnake hd
  · decide

theorem isDigit_head?_guardDigit (cs : List Char) :
    ∀ c ∈ (guardDigit cs).head?, c.isDigit = false := by
  cases cs with
  | nil => exact fun _ hc => nomatch hc
  | cons first rest =>
    intro c hc
    rw [guardDigit] at hc
    split at hc
    · rw [← Option.some.inj hc]
      decide
    · next hdigit =>
      rw [← Option.some.inj hc]
      exact Bool.eq_false_iff.2 hdigit

/-- What a field name is escaped from has no capital letter, and no digit in front. -/
theorem hasForm_stem {name : String} {c : Char} {cs : List Char} (h : stem name = c :: cs) :
    HasForm (fun c => c.isLower || c == '_') (fun c => c.isLower || c.isDigit || c == '_')
      (String.ofList (c :: cs)) := by
  have hfurther : ∀ d ∈ c :: cs, (d.isLower || d.isDigit || d == '_') = true := by
    intro d hd
    rw [← h] at hd
    exact isLower_or_of_isPlain (isPlain_of_mem_stem name d hd) (isUpper_of_mem_stem name d hd)
  have hdigit : c.isDigit = false := isDigit_head?_guardDigit _ c (by
    rw [stem, sanitize] at h
    rw [h]
    rfl)
  rw [List.forall_mem_cons, hdigit, Bool.or_false] at hfurther
  exact ⟨c, cs, String.toList_ofList, hfurther.1, List.all_eq_true.2 hfurther.2⟩

theorem isFieldIdentifier_or_raw_escape {name : String}
    (h : HasForm (fun c => c.isLower || c == '_')
      (fun c => c.isLower || c.isDigit || c == '_') name) :
    IsFieldIdentifier (escape name) ∨ IsRawIdentifier (escape name) := by
  rcases escape_cases name with ⟨-, heq, hfree⟩ | ⟨hkeyword, heq⟩ | ⟨hfree, heq⟩
  · rw [heq]
    exact .inl ⟨h.append (by decide), hfree⟩
  · have hraw : ∀ w ∈ keywords, w ∉ Source.neverRaw := by decide
    rw [heq]
    exact .inr ⟨name, (mem_languageWords_iff name).2 (.inr hkeyword), hraw name hkeyword, rfl⟩
  · rw [heq]
    exact .inl ⟨h, hfree⟩

theorem isFieldIdentifier_or_raw_fieldName (name : String) :
    IsFieldIdentifier (fieldName name) ∨ IsRawIdentifier (fieldName name) := by
  rw [fieldName_eq_ofStem]
  cases hstem : stem name with
  | nil => exact .inl ⟨⟨'f', "ield_".toList, rfl, by decide, by decide⟩, by decide⟩
  | cons c cs => exact isFieldIdentifier_or_raw_escape (hasForm_stem hstem)

/-- Type names are plain identifiers, never raw ones, and so is what is put together of them. Field
names are plain identifiers or raw ones. -/
theorem isIdentifier_typeName_fieldName (name : String) :
    IsTypeIdentifier (typeName name)
    ∧ (∀ word, typeName name ≠ "r#" ++ word)
    ∧ IsTypeIdentifier (nullableName (typeName name))
    ∧ (∀ k : Nat, IsTypeIdentifier (typeName name ++ toString k))
    ∧ (∀ other, IsTypeIdentifier (typeName name ++ "_" ++ typeName other))
    ∧ (IsFieldIdentifier (fieldName name) ∨ IsRawIdentifier (fieldName name)) := by
  have htype := isTypeIdentifier_typeName name
  refine ⟨htype, ?_, htype.nullable, htype.numbered, ?_, isFieldIdentifier_or_raw_fieldName name⟩
  · intro word hraw
    have hsign := List.all_eq_true.1 htype.all_isPlain '#' (by
      rw [hraw, String.toList_append]
      exact List.mem_append_left _ (by decide))
    exact absurd hsign (by decide)
  · intro other
    exact htype.joined (isTypeIdentifier_typeName other)

end Identifier

namespace Model

open Identifier

/-! ## Names of variants -/

theorem isTypeIdentifier_freshName (used : List String) {base : String}
    (h : IsTypeIdentifier base) : IsTypeIdentifier (freshName used base) := by
  have hcandidate (k : Nat) : IsTypeIdentifier (candidate base k) := by
    rw [candidate]
    split
    · exact h
    · exact h.numbered k
  obtain ⟨name, hname⟩ := exists_find?_tries used base
  obtain ⟨k, -, rfl⟩ := List.mem_map.1 (List.mem_of_find?_eq_some hname)
  rw [tries] at hname
  rw [freshName, hname]
  exact hcandidate k

theorem isTypeIdentifier_of_mem_variantNames {used labels : List String} :
    ∀ name ∈ variantNames used labels, IsTypeIdentifier name := by
  induction labels generalizing used with
  | nil => exact fun _ h => nomatch h
  | cons label labels ih =>
    exact List.forall_mem_cons.2
      ⟨isTypeIdentifier_freshName used (isTypeIdentifier_typeName label), ih⟩

/-- All names for an enumeration are identifiers, however its labels are written. -/
theorem EnumModel.isTypeIdentifier_ofEnumeration (e : Catalog.Enumeration) :
    IsTypeIdentifier (ofEnumeration e).name ∧ IsTypeIdentifier (ofEnumeration e).nullableName
    ∧ ∀ v ∈ (ofEnumeration e).values, IsTypeIdentifier v.variant ∧ IsTypeIdentifier v.name := by
  have hname := isTypeIdentifier_typeName e.name
  refine ⟨hname, hname.nullable, fun v hv => ?_⟩
  obtain ⟨⟨label, variant⟩, hmem, rfl⟩ := List.mem_map.1 hv
  have hvariant := isTypeIdentifier_of_mem_variantNames variant (List.of_mem_zip hmem).2
  exact ⟨hvariant, hname.joined hvariant⟩

end Model

end RowBindings
