import RowBindings.Identifier
import RowBindings.Unicode.Blank

/-!
# The characters of identifiers

Whatever a name of the database consists of, the identifier made from it consists of letters, digits
and underscores, with a number sign after the `r` of a raw one.
-/

namespace RowBindings.Identifier

/-- Whether a character occurs in identifiers, raw ones among them. -/
def isIdentifierChar (c : Char) : Bool :=
  isPlain c || c == '#'

theorem isPlain_underscore : isPlain '_' = true := by decide

theorem isIdentifierChar_of_isPlain {c : Char} (h : isPlain c = true) :
    isIdentifierChar c = true := by
  rw [isIdentifierChar, h, Bool.true_or]

theorem isPlain_of_mem_guardDigit {cs : List Char} (hcs : ∀ c ∈ cs, isPlain c = true) :
    ∀ c ∈ guardDigit cs, isPlain c = true := by
  cases cs with
  | nil => exact hcs
  | cons first rest =>
    rw [guardDigit]
    split
    · exact List.forall_mem_cons.2 ⟨isPlain_underscore, hcs⟩
    · exact hcs

theorem isPlain_of_mem_sanitize (name : List Char) : ∀ c ∈ sanitize name, isPlain c = true := by
  refine isPlain_of_mem_guardDigit fun c hc => ?_
  obtain ⟨d, _, rfl⟩ := List.mem_map.1 hc
  by_cases hplain : isPlain d = true
  · rw [if_pos hplain, hplain]
  · rw [if_neg hplain, isPlain_underscore]

/-- Keeping an identifier apart from the words of the language adds nothing else to it. -/
theorem isIdentifierChar_of_mem_escape {name : String}
    (hname : ∀ c ∈ name.toList, isPlain c = true) :
    ∀ c ∈ (escape name).toList, isIdentifierChar c = true := by
  intro c hc
  rw [escape] at hc
  split at hc
  · rw [String.toList_append, List.mem_append] at hc
    rcases hc with hc | hc
    · exact isIdentifierChar_of_isPlain (hname c hc)
    · rw [List.mem_singleton.1 hc]
      exact isIdentifierChar_of_isPlain isPlain_underscore
  · split at hc
    · rw [String.toList_append, List.mem_append] at hc
      rcases hc with hc | hc
      · have hmark : "r#".toList.all isIdentifierChar = true := by decide
        exact List.all_eq_true.1 hmark c hc
      · exact isIdentifierChar_of_isPlain (hname c hc)
    · exact isIdentifierChar_of_isPlain (hname c hc)

theorem isIdentifierChar_of_mem_escape_sanitize (name : List Char) :
    ∀ c ∈ (escape (String.ofList (sanitize name))).toList, isIdentifierChar c = true := by
  refine isIdentifierChar_of_mem_escape fun c hc => ?_
  rw [String.toList_ofList] at hc
  exact isPlain_of_mem_sanitize name c hc

/-- The name of a field is made of identifier characters only. -/
theorem isIdentifierChar_of_mem_fieldName (name : String) :
    ∀ c ∈ (fieldName name).toList, isIdentifierChar c = true := by
  rw [fieldName]
  split
  · have hdefault : "field_".toList.all isIdentifierChar = true := by decide
    exact List.all_eq_true.1 hdefault
  · exact isIdentifierChar_of_mem_escape_sanitize _

/-- The name of a type is made of identifier characters only. -/
theorem isIdentifierChar_of_mem_typeName (name : String) :
    ∀ c ∈ (typeName name).toList, isIdentifierChar c = true := by
  rw [typeName]
  split
  · have hdefault : "Empty".toList.all isIdentifierChar = true := by decide
    exact List.all_eq_true.1 hdefault
  · exact isIdentifierChar_of_mem_escape_sanitize _

theorem notMem_of_isIdentifierChar {cs : List Char} (hcs : ∀ c ∈ cs, isIdentifierChar c = true)
    {c : Char} (hc : isIdentifierChar c = false) : c ∉ cs := by
  intro hmem
  rw [hcs c hmem] at hc
  exact Bool.noConfusion hc

theorem comma_notMem {cs : List Char} (hcs : ∀ c ∈ cs, isIdentifierChar c = true) : ',' ∉ cs :=
  notMem_of_isIdentifierChar hcs (by decide)

/-- Identifiers are printable text of the basic Latin block. -/
theorem toNat_of_isIdentifierChar {c : Char} (h : isIdentifierChar c = true) :
    0x21 ≤ c.toNat ∧ c.toNat < 0x80 := by
  delta isIdentifierChar isPlain Char.isAlphanum Char.isAlpha Char.isUpper Char.isLower at h
  simp only [Char.isDigit, Bool.or_eq_true, Bool.and_eq_true, decide_eq_true_eq, beq_iff_eq, ge_iff_le,
    UInt32.le_iff_toNat_le, Char.toNat_val, Char.reduceToNat] at h
  rcases h with (((hupper | hlower) | hdigit) | rfl) | rfl
  · omega
  · omega
  · omega
  · decide
  · decide

theorem isBlank_of_isIdentifierChar {c : Char} (h : isIdentifierChar c = true) :
    Unicode.isBlank c = false := by
  have hsize := toNat_of_isIdentifierChar h
  simp only [Unicode.isBlank, Bool.or_eq_false_iff, Bool.and_eq_false_iff, decide_eq_false_iff_not,
    beq_eq_false_iff_ne]
  omega

end RowBindings.Identifier
