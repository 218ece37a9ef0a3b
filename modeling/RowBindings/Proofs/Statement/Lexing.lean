import RowBindings.Statement.Basic

/-!
# Tokens of a statement

A statement falls apart into tokens by the lexical rules of the database: bare words, folded to
lower case; text between double quotes, in which two quotes stand for one; numbered parameters; and
single marks. `tokens?` splits a text by these rules alone. What is proved here is that each piece a
statement is printed from, a name above all, gives just the tokens meant by it, whatever the name
is and whatever follows.
-/

namespace RowBindings.Statement

/-! ## The lexical rules -/

/-- A lexical unit of the query language. -/
inductive Token
  /-- A bare word, in lower case. -/
  | word (text : List Char)
  /-- The text between double quotes. -/
  | quoted (text : List Char)
  | parameter (number : Nat)
  | mark (c : Char)
  deriving DecidableEq, Repr

/-- Characters that separate tokens and belong to none. -/
def isSpace (c : Char) : Bool :=
  c == ' ' || c == '\t' || c == '\n' || c == '\r' || c == '\x0b' || c == '\x0c'

/-- Characters a bare word starts with. -/
def isWordStart (c : Char) : Bool :=
  c.isAlpha || c == '_' || 0x80 ≤ c.toNat

/-- Characters of a bare word. -/
def isWordChar (c : Char) : Bool :=
  isWordStart c || c.isDigit || c == '$'

/-- The marks that the statements here are made of. -/
def marks : List Char := ['(', ')', ',', ';', '=']

/-- The text up to the closing quote, and what follows it. -/
def quotedText? : List Char → Option (List Char × List Char)
  | [] => none
  | c :: rest =>
    if c = '"' then
      match rest with
      | '"' :: rest => (quotedText? rest).map fun (text, after) => ('"' :: text, after)
      | rest => some ([], rest)
    else (quotedText? rest).map fun (text, after) => (c :: text, after)

/-- The token at the start of a text, and what follows it. A parameter that runs on into a word is
refused, and so is every character that none of these tokens starts with. -/
def nextToken? : List Char → Option (Token × List Char)
  | [] => none
  | c :: rest =>
    if c = '"' then (quotedText? rest).map fun (text, after) => (.quoted text, after)
    else if c = '$' then
      let digits := rest.takeWhile Char.isDigit
      let after := rest.dropWhile Char.isDigit
      if digits.isEmpty || after.head?.any isWordChar then none
      else some (.parameter (Nat.ofDigitChars 10 digits 0), after)
    else if isWordStart c then
      some (.word ((c :: rest.takeWhile isWordChar).map Char.toLower), rest.dropWhile isWordChar)
    else if marks.contains c then some (.mark c, rest)
    else none

theorem quotedText?_length {cs text after : List Char}
    (h : quotedText? cs = some (text, after)) : after.length < cs.length := by
  fun_induction quotedText? cs generalizing text after with
  | case1 => simp at h
  | case2 rest ih =>
    obtain ⟨⟨text', after'⟩, h', heq⟩ := Option.map_eq_some_iff.1 h
    cases heq
    have := ih h'
    simp only [List.length_cons]
    omega
  | case3 rest => cases h; simp
  | case4 c rest hc ih =>
    obtain ⟨⟨text', after'⟩, h', heq⟩ := Option.map_eq_some_iff.1 h
    cases heq
    have := ih h'
    simp only [List.length_cons]
    omega

/-- A token takes at least one character. -/
theorem nextToken?_length {cs after : List Char} {t : Token}
    (h : nextToken? cs = some (t, after)) : after.length < cs.length := by
  cases cs with
  | nil => simp [nextToken?] at h
  | cons c rest =>
    simp only [nextToken?] at h
    split at h
    · obtain ⟨⟨text, after'⟩, h', heq⟩ := Option.map_eq_some_iff.1 h
      cases heq
      exact Nat.lt_succ_of_lt (quotedText?_length h')
    · split at h
      · split at h
        · cases h
        · cases h
          exact Nat.lt_succ_of_le (List.dropWhile_suffix _).length_le
      · split at h
        · cases h
          exact Nat.lt_succ_of_le (List.dropWhile_suffix _).length_le
        · split at h
          · cases h
            exact Nat.lt_succ_self _
          · cases h

/-- The tokens of a text. -/
def tokens? (cs : List Char) : Option (List Token) :=
  match _h : nextToken? cs with
  | some (t, after) => (tokens? after).map (t :: ·)
  | none =>
    match cs with
    | [] => some []
    | c :: rest => if isSpace c then tokens? rest else none
termination_by cs.length
decreasing_by
  · exact nextToken?_length ‹_›
  · exact Nat.lt_succ_self _

theorem tokens?_of_next {cs after : List Char} {t : Token} {ts : List Token}
    (h : nextToken? cs = some (t, after)) (hts : tokens? after = some ts) :
    tokens? cs = some (t :: ts) := by
  rw [tokens?.eq_def]
  split
  · next t' after' h' =>
    rw [h] at h'
    cases h'
    rw [hts, Option.map_some]
  · next h' =>
    rw [h] at h'
    cases h'

theorem tokens?_nil : tokens? [] = some [] := by
  rw [tokens?.eq_def]
  rfl

theorem tokens?_blank (cs : List Char) : tokens? (' ' :: cs) = tokens? cs := by
  rw [tokens?.eq_def]
  rfl

/-! ## The tokens of a printed piece -/

/-- No token before this text runs on into it. -/
def Apart (rest : List Char) : Prop :=
  ∀ c ∈ rest.head?, isWordChar c = false ∧ c ≠ '"'

theorem apart_nil : Apart [] := by
  intro c hc
  cases hc

theorem apart_cons {c : Char} {rest : List Char} (hw : isWordChar c = false) (hq : c ≠ '"') :
    Apart (c :: rest) := by
  intro d hd
  cases hd
  exact ⟨hw, hq⟩

/-- What starts with one of the characters between two tokens is apart from what is before. -/
theorem apart_of_mem {c : Char} {rest : List Char} (hc : c ∈ [' ', ',', ')', '(']) :
    Apart (c :: rest) := by
  simp only [List.mem_cons, List.not_mem_nil, or_false] at hc
  rcases hc with rfl | rfl | rfl | rfl
  all_goals exact apart_cons (by decide) (by decide)

section Span

variable {p : Char → Bool} {run rest : List Char}

theorem takeWhile_append_of_head (hrun : ∀ c ∈ run, p c) (hrest : ∀ c ∈ rest.head?, p c = false) :
    (run ++ rest).takeWhile p = run := by
  rw [List.takeWhile_append_of_pos hrun]
  cases rest with
  | nil => simp
  | cons c rest => simp [hrest c rfl]

theorem dropWhile_append_of_head (hrun : ∀ c ∈ run, p c) (hrest : ∀ c ∈ rest.head?, p c = false) :
    (run ++ rest).dropWhile p = rest := by
  rw [List.dropWhile_append_of_pos hrun]
  cases rest with
  | nil => simp
  | cons c rest => simp [hrest c rfl]

end Span

theorem quotedText?_cons {c : Char} (rest : List Char) (hc : c ≠ '"') :
    quotedText? (c :: rest) = (quotedText? rest).map fun (text, after) => (c :: text, after) := by
  rw [quotedText?.eq_def]
  simp only [hc, if_false]

/-- Reading up to the closing quote gives back the text whose quotes were doubled. -/
theorem quotedText?_doubleQuotes (name : List Char) {rest : List Char}
    (hrest : ∀ c ∈ rest.head?, c ≠ '"') :
    quotedText? (doubleQuotes name ++ '"' :: rest) = some (name, rest) := by
  induction name with
  | nil =>
    cases rest with
    | nil => rfl
    | cons c rest =>
      have hc : c ≠ '"' := hrest c rfl
      simp [doubleQuotes, quotedText?, hc]
  | cons c name ih =>
    by_cases hc : c = '"'
    · simp [doubleQuotes, quotedText?, hc, ih]
    · rw [doubleQuotes, if_neg hc, List.cons_append, quotedText?_cons _ hc, ih, Option.map_some]

/-- The token that stands for a name: a word if the name may be written bare. -/
def nameToken (name : List Char) : Token :=
  if isBare name then .word name else .quoted name

theorem toLower_of_isBareChar {c : Char} (h : isBareChar c) : c.toLower = c := by
  refine dif_neg ?_
  rintro ⟨hlow, hhigh⟩
  simp only [isBareChar, Bool.or_eq_true, beq_iff_eq] at h
  rcases h with (h | h) | rfl
  · have hletter : 'a'.val ≤ c.val := of_decide_eq_true (Bool.and_eq_true_iff.1 h).1
    exact absurd (UInt32.le_trans hletter hhigh) (by decide)
  · have hdigit : c.val ≤ '9'.val := of_decide_eq_true (Bool.and_eq_true_iff.1 h).2
    exact absurd (UInt32.le_trans hlow hdigit) (by decide)
  · exact absurd hhigh (by decide)

theorem isAlpha_of_isLower {c : Char} (h : c.isLower = true) : c.isAlpha = true :=
  Bool.or_eq_true_iff.2 (.inr h)

theorem isWordChar_of_isBareChar {c : Char} (h : isBareChar c) : isWordChar c := by
  simp only [isBareChar, Bool.or_eq_true] at h
  rcases h with (h | h) | h
  · simp [isWordChar, isWordStart, isAlpha_of_isLower h]
  · simp [isWordChar, h]
  · simp [isWordChar, isWordStart, h]

theorem isWordStart_of_isBareStart {c : Char} (h : isBareStart c) : isWordStart c := by
  simp only [isBareStart, Bool.or_eq_true] at h
  rcases h with h | h
  · simp [isWordStart, isAlpha_of_isLower h]
  · simp [isWordStart, h]

/-- A word gives one token, folded to lower case, and ends before the first character that is none
of its. -/
theorem nextToken?_word {c : Char} {run rest : List Char} (hc : isWordStart c)
    (hrun : ∀ d ∈ run, isWordChar d) (hrest : ∀ d ∈ rest.head?, isWordChar d = false) :
    nextToken? (c :: run ++ rest) = some (.word ((c :: run).map Char.toLower), rest) := by
  have hquote : c ≠ '"' := by rintro rfl; exact absurd hc (by decide)
  have hdollar : c ≠ '$' := by rintro rfl; exact absurd hc (by decide)
  rw [List.cons_append, nextToken?, if_neg hquote, if_neg hdollar, if_pos hc,
    takeWhile_append_of_head hrun hrest, dropWhile_append_of_head hrun hrest]

/-- A name gives one token, which holds the name, and ends where the name was written to end. -/
theorem nextToken?_nameText (name : List Char) {rest : List Char} (hrest : Apart rest) :
    nextToken? (nameText name ++ rest) = some (nameToken name, rest) := by
  by_cases hbare : isBare name
  · rw [nameText, if_pos hbare, nameToken, if_pos hbare]
    cases name with
    | nil => cases hbare
    | cons c run =>
      simp only [isBare, Bool.and_eq_true, List.all_eq_true] at hbare
      obtain ⟨⟨hstart, hall⟩, -⟩ := hbare
      have hfold : (c :: run).map Char.toLower = c :: run :=
        (List.map_congr_left fun d hd => toLower_of_isBareChar (hall d hd)).trans (List.map_id' _)
      rw [nextToken?_word (isWordStart_of_isBareStart hstart)
        (fun d hd => isWordChar_of_isBareChar (hall d (List.mem_cons_of_mem c hd)))
        (fun d hd => (hrest d hd).1), hfold]
  · rw [nameText, if_neg hbare, nameToken, if_neg hbare]
    rw [List.cons_append, List.cons_append, List.append_assoc, nextToken?, if_pos rfl,
      List.singleton_append, quotedText?_doubleQuotes name fun c hc => (hrest c hc).2,
      Option.map_some]

theorem nextToken?_parameterText (k : Nat) {rest : List Char} (hrest : Apart rest) :
    nextToken? (parameterText k ++ rest) = some (.parameter k, rest) := by
  have hdigits : ∀ c ∈ Nat.toDigits 10 k, c.isDigit := fun c hc =>
    Nat.isDigit_of_mem_toDigits (by decide) (by decide) hc
  have hhead : ∀ c ∈ rest.head?, c.isDigit = false := by
    intro c hc
    have := (hrest c hc).1
    simp only [isWordChar, Bool.or_eq_false_iff] at this
    exact this.1.2
  have hany : rest.head?.any isWordChar = false := by
    cases rest with
    | nil => rfl
    | cons c rest => exact (hrest c rfl).1
  have hne : Nat.toDigits 10 k ≠ [] := Nat.toDigits_ne_nil
  simp only [parameterText, List.cons_append, nextToken?, takeWhile_append_of_head hdigits hhead,
    dropWhile_append_of_head hdigits hhead, hany, Nat.ofDigitChars_ten_toDigits]
  simp [hne]

/-! ## Token lists -/

variable {rest : List Char} {ts : List Token}

/-- A word written as it is, other than a name. -/
def isWord : List Char → Bool
  | [] => false
  | c :: run => isWordStart c && run.all isWordChar

/-- The token of a word of the language itself. -/
def keyword (word : String) : Token :=
  .word (word.toList.map Char.toLower)

theorem tokens?_keyword (word : String) (hword : isWord word.toList) (hrest : Apart rest)
    (hts : tokens? rest = some ts) :
    tokens? (word.toList ++ rest) = some (keyword word :: ts) := by
  refine tokens?_of_next ?_ hts
  rw [keyword]
  cases hw : word.toList with
  | nil => rw [hw] at hword; cases hword
  | cons c run =>
    rw [hw, isWord, Bool.and_eq_true, List.all_eq_true] at hword
    exact nextToken?_word hword.1 hword.2 fun d hd => (hrest d hd).1

theorem tokens?_mark {c : Char} (hc : c ∈ marks) (hts : tokens? rest = some ts) :
    tokens? (c :: rest) = some (.mark c :: ts) := by
  obtain ⟨hquote, hdollar, hword⟩ : c ≠ '"' ∧ c ≠ '$' ∧ isWordStart c = false := by
    have hcases : c = '(' ∨ c = ')' ∨ c = ',' ∨ c = ';' ∨ c = '=' := by
      simpa only [marks, List.mem_cons, List.not_mem_nil, or_false] using hc
    rcases hcases with rfl | rfl | rfl | rfl | rfl <;> decide
  refine tokens?_of_next ?_ hts
  rw [nextToken?, if_neg hquote, if_neg hdollar, if_neg (by simp [hword]),
    if_pos (List.contains_iff_mem.2 hc)]

theorem tokens?_name (name : String) (hrest : Apart rest) (hts : tokens? rest = some ts) :
    tokens? (nameText name.toList ++ rest) = some (nameToken name.toList :: ts) :=
  tokens?_of_next (nextToken?_nameText name.toList hrest) hts

theorem tokens?_parameter (k : Nat) (hrest : Apart rest) (hts : tokens? rest = some ts) :
    tokens? (parameterText k ++ rest) = some (.parameter k :: ts) :=
  tokens?_of_next (nextToken?_parameterText k hrest) hts

/-- A list of texts gives the tokens of each, with those of the separator in between. -/
theorem tokens?_joinWith {α : Type} {sep : List Char} {between : List Token}
    (text : α → List Char) (toks : α → List Token) (hsep : ∀ after, Apart (sep ++ after))
    (hbetween : ∀ after us, tokens? after = some us → tokens? (sep ++ after) = some (between ++ us))
    {xs : List α}
    (htext : ∀ x ∈ xs, ∀ after us, Apart after → tokens? after = some us →
      tokens? (text x ++ after) = some (toks x ++ us))
    (hrest : Apart rest) (hts : tokens? rest = some ts) :
    tokens? (Text.joinWith sep (xs.map text) ++ rest)
      = some (between.intercalate (xs.map toks) ++ ts) := by
  induction xs with
  | nil => exact hts
  | cons x xs ih =>
    have hx := htext x List.mem_cons_self
    cases xs with
    | nil =>
      simp only [List.map_cons, List.map_nil, List.intercalate_singleton]
      exact hx rest ts hrest hts
    | cons y ys =>
      have hys := ih fun z hz => htext z (List.mem_cons_of_mem x hz)
      have h := hx _ _ (hsep _) (hbetween _ _ hys)
      simp only [List.map_cons, Text.joinWith, List.intercalate_cons_cons, List.append_assoc] at h ⊢
      exact h

end RowBindings.Statement
