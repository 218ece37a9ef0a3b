import RowBindings.Unicode.Blank

/-!
# Lines of source text

What is left of a text when the lines that are comments are taken out of it. Text is put together
from lines, so what is left of it is what is left of each line, one after the other.
-/

namespace RowBindings.Text

/-- Whether a line is a comment: two slashes come first in it, blanks apart. -/
def isComment (line : List Char) : Bool :=
  ['/', '/'].isPrefixOf (Unicode.trimStart line)

/-- The lines of a text. -/
def allLines (text : String) : List (List Char) :=
  text.toList.splitOn '\n'

/-- The lines of a text that are no comments. -/
def codeLines (text : String) : List String :=
  ((text.toList.splitOn '\n').filter fun line => !isComment line).map String.ofList

/-- Whether a line starts with something other than a slash, blanks apart. -/
def startsCode (line : List Char) : Bool :=
  (Unicode.trimStart line).head?.any (· != '/')

/-- A text without line breaks. -/
def IsOneLine (text : String) : Prop :=
  '\n' ∉ text.toList

instance (text : String) : Decidable (IsOneLine text) :=
  inferInstanceAs (Decidable ('\n' ∉ text.toList))

/-- The characters of a text that is given by them. For a long text this is much cheaper to check
than to take it apart. -/
theorem toList_eq_of_eq_ofList {text : String} {cs : List Char} (h : text = String.ofList cs) :
    text.toList = cs := by
  rw [h, String.toList_ofList]

/-! ## Single lines -/

theorem IsOneLine.append {a b : String} (ha : IsOneLine a) (hb : IsOneLine b) :
    IsOneLine (a ++ b) := by
  rw [IsOneLine, String.toList_append, List.mem_append, not_or]
  exact ⟨ha, hb⟩

theorem isOneLine_join {texts : List String} (h : ∀ text ∈ texts, IsOneLine text) :
    IsOneLine (String.join texts) := by
  induction texts with
  | nil => exact List.not_mem_nil
  | cons text texts ih =>
    obtain ⟨htext, htexts⟩ := List.forall_mem_cons.1 h
    rw [String.join_cons]
    exact htext.append (ih htexts)

theorem isOneLine_toString (n : Nat) : IsOneLine (toString n) := by
  intro hbreak
  rw [Nat.toString_eq_repr, Nat.toList_repr] at hbreak
  exact absurd (Nat.isDigit_of_mem_toDigits (by decide) (by decide) hbreak) (by decide)

/-- A number is known by its digits. -/
theorem toString_injective {i j : Nat} (h : toString i = toString j) : i = j := by
  have hdigits := congrArg String.toList h
  rw [Nat.toString_eq_repr, Nat.toString_eq_repr, Nat.toList_repr, Nat.toList_repr] at hdigits
  have hvalue := congrArg (Nat.ofDigitChars 10 · 0) hdigits
  simpa only [Nat.ofDigitChars_ten_toDigits] using hvalue

theorem trimStart_append {cs : List Char} (h : Unicode.trimStart cs ≠ []) (rest : List Char) :
    Unicode.trimStart (cs ++ rest) = Unicode.trimStart cs ++ rest := by
  rw [Unicode.trimStart] at h ⊢
  rw [Unicode.trimStart, List.dropWhile_append, if_neg]
  rwa [List.isEmpty_iff]

theorem isComment_append {cs : List Char} (h : isComment cs = true) (rest : List Char) :
    isComment (cs ++ rest) = true := by
  rw [isComment, List.isPrefixOf_iff_prefix] at h ⊢
  have hne : Unicode.trimStart cs ≠ [] := by
    intro hnil
    rw [hnil] at h
    exact List.cons_ne_nil _ _ (List.prefix_nil.1 h)
  rw [trimStart_append hne]
  exact h.trans (List.prefix_append _ rest)

theorem startsCode_append {cs : List Char} (h : startsCode cs = true) (rest : List Char) :
    startsCode (cs ++ rest) = true := by
  rw [startsCode] at h ⊢
  cases htrim : Unicode.trimStart cs with
  | nil =>
    rw [htrim] at h
    exact Bool.noConfusion h
  | cons c more =>
    have hne : Unicode.trimStart cs ≠ [] := by
      rw [htrim]
      exact List.cons_ne_nil c more
    rw [htrim] at h
    rw [trimStart_append hne, htrim]
    exact h

/-- A line that starts with something other than a slash is no comment. -/
theorem isComment_of_startsCode {line : List Char} (h : startsCode line = true) :
    isComment line = false := by
  rw [startsCode] at h
  rw [isComment]
  cases htrim : Unicode.trimStart line with
  | nil => rfl
  | cons c rest =>
    rw [htrim, List.head?_cons, Option.any_some, bne_iff_ne] at h
    rw [List.isPrefixOf_cons_cons, beq_false_of_ne h.symm, Bool.false_and]

/-- What stands before code belongs to it if there is no slash in it. -/
theorem startsCode_append_of_notMem {cs rest : List Char} (hcs : '/' ∉ cs)
    (hrest : startsCode rest = true) : startsCode (cs ++ rest) = true := by
  induction cs with
  | nil => exact hrest
  | cons c cs ih =>
    rw [List.mem_cons, not_or] at hcs
    obtain ⟨hc, hcs⟩ := hcs
    cases hblank : Unicode.isBlank c with
    | true =>
      rw [startsCode, Unicode.trimStart, List.cons_append, List.dropWhile_cons_of_pos hblank]
      exact ih hcs
    | false =>
      rw [startsCode, Unicode.trimStart, List.cons_append,
        List.dropWhile_cons_of_neg (Bool.not_eq_true _ ▸ hblank), List.head?_cons, Option.any_some,
        bne_iff_ne]
      exact fun h => hc h.symm

/-- A line that starts with something other than a slash, blanks apart. -/
structure IsCodeLine (text : String) : Prop where
  isOneLine : IsOneLine text
  startsCode : startsCode text.toList = true

instance (text : String) : Decidable (IsCodeLine text) :=
  decidable_of_iff (IsOneLine text ∧ startsCode text.toList = true)
    ⟨fun h => ⟨h.1, h.2⟩, fun h => ⟨h.1, h.2⟩⟩

theorem IsCodeLine.append {a b : String} (ha : IsCodeLine a) (hb : IsOneLine b) :
    IsCodeLine (a ++ b) where
  isOneLine := ha.isOneLine.append hb
  startsCode := by
    rw [String.toList_append]
    exact startsCode_append ha.startsCode _

theorem IsCodeLine.after {a b : String} (hb : IsCodeLine b) (ha : IsOneLine a)
    (hslash : '/' ∉ a.toList) : IsCodeLine (a ++ b) where
  isOneLine := ha.append hb.isOneLine
  startsCode := by
    rw [String.toList_append]
    exact startsCode_append_of_notMem hslash hb.startsCode

/-- A line that is a comment. -/
structure IsCommentLine (text : String) : Prop where
  isOneLine : IsOneLine text
  isComment : isComment text.toList = true

instance (text : String) : Decidable (IsCommentLine text) :=
  decidable_of_iff (IsOneLine text ∧ isComment text.toList = true)
    ⟨fun h => ⟨h.1, h.2⟩, fun h => ⟨h.1, h.2⟩⟩

theorem IsCommentLine.append {a b : String} (ha : IsCommentLine a) (hb : IsOneLine b) :
    IsCommentLine (a ++ b) where
  isOneLine := ha.isOneLine.append hb
  isComment := by
    rw [String.toList_append]
    exact isComment_append ha.isComment _

/-! ## Texts made of lines -/

theorem codeLines_of_isOneLine {line : String} (h : IsOneLine line) :
    codeLines line = if isComment line.toList then [] else [line] := by
  rw [codeLines, List.splitOn_eq_singleton h]
  cases hcomment : isComment line.toList with
  | true => simp [hcomment]
  | false => simp [hcomment]

/-- A line that starts with code is left as it is. -/
theorem codeLines_of_isCodeLine {line : String} (h : IsCodeLine line) :
    codeLines line = [line] := by
  rw [codeLines_of_isOneLine h.isOneLine, isComment_of_startsCode h.startsCode]
  rfl

/-- Nothing is left of a line that is a comment. -/
theorem codeLines_of_isCommentLine {line : String} (h : IsCommentLine line) :
    codeLines line = [] := by
  rw [codeLines_of_isOneLine h.isOneLine, h.isComment]
  rfl

/-- Texts that are put together from others are, one after the other, put together from all of
those. -/
theorem intercalate_flatten {separator : String} {parts : List (List String)}
    (h : ∀ part ∈ parts, part ≠ []) :
    separator.intercalate parts.flatten = separator.intercalate (parts.map separator.intercalate) := by
  induction parts with
  | nil => rfl
  | cons part parts ih =>
    obtain ⟨hpart, hparts⟩ := List.forall_mem_cons.1 h
    cases parts with
    | nil =>
      rw [List.flatten_cons, List.flatten_nil, List.append_nil, List.map_singleton,
        String.intercalate_singleton]
    | cons next parts =>
      have hrest : (next :: parts).flatten ≠ [] := by
        rw [List.flatten_cons]
        exact List.append_ne_nil_of_left_ne_nil (hparts next List.mem_cons_self) _
      rw [List.flatten_cons, String.intercalate_append_of_ne_nil hpart hrest, ih hparts]
      exact String.intercalate_cons_cons.symm

/-- A text among others, all apart by a separator, stands between two texts. -/
theorem intercalate_append_cons (separator text : String) (before after : List String) :
    separator.intercalate (before ++ text :: after)
      = String.join (before.map (· ++ separator)) ++ text
        ++ String.join (after.map (separator ++ ·)) := by
  induction before with
  | nil =>
    rw [List.nil_append, List.map_nil, String.join_nil, String.empty_append]
    induction after generalizing text with
    | nil => rw [String.intercalate_singleton, List.map_nil, String.join_nil, String.append_empty]
    | cons next after ih =>
      rw [String.intercalate_cons_cons, ih, List.map_cons, String.join_cons, String.append_assoc,
        String.append_assoc]
  | cons first before ih =>
    obtain ⟨next, rest, hrest⟩ := List.exists_cons_of_ne_nil
      (List.append_ne_nil_of_right_ne_nil before (List.cons_ne_nil text after))
    rw [List.cons_append, hrest, String.intercalate_cons_cons, ← hrest, ih, List.map_cons,
      String.join_cons, String.append_assoc, String.append_assoc, String.append_assoc,
      String.append_assoc, String.append_assoc]

theorem allLines_append (before after : String) :
    allLines (before ++ "\n" ++ after) = allLines before ++ allLines after := by
  have htext : (before ++ "\n" ++ after).toList = before.toList ++ '\n' :: after.toList := by
    simp only [String.toList_append, String.reduceToList, List.append_assoc, List.cons_append,
      List.nil_append]
  rw [allLines, htext, List.splitOn_append_cons_self]
  rfl

/-- The lines of texts that stand on lines of their own are those of each text. -/
theorem allLines_intercalate {texts : List String} (h : texts ≠ []) :
    allLines ("\n".intercalate texts) = texts.flatMap allLines := by
  induction texts with
  | nil => exact absurd rfl h
  | cons text texts ih =>
    cases texts with
    | nil => rw [String.intercalate_singleton, List.flatMap_cons, List.flatMap_nil, List.append_nil]
    | cons next texts =>
      rw [String.intercalate_cons_cons, allLines_append, ih (List.cons_ne_nil _ _)]
      rfl

theorem codeLines_eq (text : String) :
    codeLines text = ((allLines text).filter fun line => !isComment line).map String.ofList := rfl

theorem codeLines_append (before after : String) :
    codeLines (before ++ "\n" ++ after) = codeLines before ++ codeLines after := by
  rw [codeLines_eq, allLines_append, List.filter_append, List.map_append]
  rfl

theorem codeLines_intercalate {texts : List String} (h : texts ≠ []) :
    codeLines ("\n".intercalate texts) = texts.flatMap codeLines := by
  rw [codeLines_eq, allLines_intercalate h, List.filter_flatMap, List.map_flatMap]
  rfl

end RowBindings.Text
