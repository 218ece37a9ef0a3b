import RowBindings.Proofs.Statement.Grammar

/-!
# Names read back

Writing a name is a code that has to be read back by rules that are not its own. `readName?` takes
the first token of a text for a name: a bare word, which counts in lower case and must not be kept by
the language, or text between quotes. Main statement: whatever the name is, quotes and kept words
included, and whatever follows it, if only it cannot be part of it, exactly this name is read and
exactly the rest is left. So no text stands for two names.
-/

namespace RowBindings.Statement

/-- The name at the start of a text, and what follows it. -/
def readName? (cs : List Char) : Option (String × List Char) :=
  (nextToken? cs).bind fun (t, after) => (nameOf? t).map (·, after)

/-- A text starts with a spelling of a name and goes on with `after`. -/
inductive Spells : List Char → String → List Char → Prop
  /-- A bare word reaches as far as it can, counts in lower case and is no reserved word. -/
  | bare {c : Char} {run after : List Char} (hstart : isWordStart c = true)
      (hrun : ∀ d ∈ run, isWordChar d = true) (hend : ∀ d ∈ after.head?, isWordChar d = false)
      (hfree : String.ofList ((c :: run).map Char.toLower) ∉ reservedWords) :
      Spells (c :: run ++ after) (String.ofList ((c :: run).map Char.toLower)) after
  /-- Between quotes stands any text, each quote in it twice. -/
  | quoted (text : List Char) {after : List Char} (hend : ∀ d ∈ after.head?, d ≠ '"') :
      Spells ('"' :: doubleQuotes text ++ '"' :: after) (String.ofList text) after

/-! ## What can be read -/

/-- The words that are written between quotes are those that are no names when they stand bare. -/
theorem mem_keptWords_iff {word : String} : word ∈ keptWords ↔ word ∈ reservedWords := by
  constructor
  · exact keptWords_subset word
  · have hall : reservedWords.all keptWords.contains = true := by decide +kernel
    intro hword
    exact List.contains_iff_mem.1 (List.all_eq_true.1 hall word hword)

theorem nameOf?_word (text : List Char) :
    nameOf? (.word text)
      = if String.ofList text ∈ reservedWords then none else some (String.ofList text) := by
  rw [nameOf?]
  simp only [List.contains_iff_mem, mem_keptWords_iff]

/-- Reading up to the closing quote is undoing the doubling of quotes. -/
theorem quotedText?_eq_some_iff {cs text after : List Char} :
    quotedText? cs = some (text, after) ↔
      cs = doubleQuotes text ++ '"' :: after ∧ ∀ d ∈ after.head?, d ≠ '"' := by
  constructor
  · intro h
    fun_induction quotedText? cs generalizing text with
    | case1 => cases h
    | case2 rest ih =>
      obtain ⟨⟨text', after'⟩, hrest, heq⟩ := Option.map_eq_some_iff.1 h
      cases heq
      obtain ⟨rfl, hend⟩ := ih hrest
      exact ⟨rfl, hend⟩
    | case3 rest hrest =>
      cases h
      refine ⟨rfl, fun d hd hquote => ?_⟩
      obtain ⟨more, hmore⟩ := List.head?_eq_some_iff.1 hd
      rw [hquote] at hmore
      exact hrest more hmore
    | case4 c rest hc ih =>
      obtain ⟨⟨text', after'⟩, hrest, heq⟩ := Option.map_eq_some_iff.1 h
      cases heq
      obtain ⟨rfl, hend⟩ := ih hrest
      refine ⟨?_, hend⟩
      rw [doubleQuotes, if_neg hc]
      rfl
  · rintro ⟨rfl, hend⟩
    exact quotedText?_doubleQuotes text hend

/-- What a token that stands for a name was read from. -/
theorem nextToken?_cases {cs after : List Char} {t : Token}
    (h : nextToken? cs = some (t, after)) (hname : nameOf? t ≠ none) :
    (∃ text, t = .quoted text ∧ ∃ rest, cs = '"' :: rest ∧ quotedText? rest = some (text, after))
    ∨ ∃ c rest, cs = c :: rest ∧ isWordStart c = true
      ∧ t = .word ((c :: rest.takeWhile isWordChar).map Char.toLower)
      ∧ after = rest.dropWhile isWordChar := by
  cases cs with
  | nil => cases h
  | cons c rest =>
    simp only [nextToken?] at h
    split at h
    · -- a quote
      next hquote =>
      obtain ⟨⟨text, after'⟩, hrest, heq⟩ := Option.map_eq_some_iff.1 h
      cases heq
      exact .inl ⟨text, rfl, rest, by rw [hquote], hrest⟩
    · split at h
      · -- a parameter stands for no name
        split at h
        · cases h
        · cases h
          exact absurd rfl hname
      · split at h
        · -- a word
          next hstart =>
          cases h
          exact .inr ⟨c, rest, rfl, hstart, rfl, rfl⟩
        · -- nor does a mark
          split at h
          · cases h
            exact absurd rfl hname
          · cases h

theorem exists_token_of_readName? {cs after : List Char} {name : String}
    (h : readName? cs = some (name, after)) :
    ∃ t, nextToken? cs = some (t, after) ∧ nameOf? t = some name := by
  obtain ⟨⟨t, after'⟩, htoken, hrest⟩ := Option.bind_eq_some_iff.1 h
  obtain ⟨name', hname, heq⟩ := Option.map_eq_some_iff.1 hrest
  cases heq
  exact ⟨t, htoken, hname⟩

theorem readName?_of_token {cs after : List Char} {t : Token}
    (h : nextToken? cs = some (t, after)) : readName? cs = (nameOf? t).map (·, after) := by
  rw [readName?, h, Option.bind_some]

theorem forall_head?_dropWhile (p : Char → Bool) (cs : List Char) :
    ∀ d ∈ (cs.dropWhile p).head?, p d = false := by
  intro d hd
  have h := List.head?_dropWhile_not p cs
  rw [Option.mem_def.1 hd] at h
  exact h

/-- A name is read just where one is spelt, and only the one that is spelt. -/
theorem readName?_eq_some_iff {cs after : List Char} {name : String} :
    readName? cs = some (name, after) ↔ Spells cs name after := by
  constructor
  · intro h
    obtain ⟨t, htoken, hname⟩ := exists_token_of_readName? h
    have hsome : nameOf? t ≠ none := by
      rw [hname]
      exact Option.some_ne_none name
    obtain ⟨text, rfl, rest, rfl, hrest⟩ | ⟨c, rest, rfl, hstart, rfl, rfl⟩ :=
      nextToken?_cases htoken hsome
    · obtain ⟨rfl, hend⟩ := quotedText?_eq_some_iff.1 hrest
      cases hname
      exact .quoted text hend
    · rw [nameOf?_word] at hname
      split at hname
      · cases hname
      · next hfree =>
        cases hname
        have hspelt : c :: rest = c :: rest.takeWhile isWordChar ++ rest.dropWhile isWordChar := by
          rw [List.cons_append, List.takeWhile_append_dropWhile]
        rw [hspelt]
        exact .bare hstart (List.all_eq_true.1 List.all_takeWhile)
          (forall_head?_dropWhile isWordChar rest) hfree
  · intro h
    cases h with
    | bare hstart hrun hend hfree =>
      rw [readName?_of_token (nextToken?_word hstart hrun hend), nameOf?_word, if_neg hfree,
        Option.map_some]
    | quoted text hend =>
      have htoken : nextToken? ('"' :: doubleQuotes text ++ '"' :: after)
          = some (.quoted text, after) := by
        rw [List.cons_append, nextToken?, if_pos rfl, quotedText?_doubleQuotes text hend,
          Option.map_some]
      rw [readName?_of_token htoken, nameOf?, Option.map_some]

/-! ## Names as they are written -/

/-- A name is read from its text, and nothing of what follows. -/
theorem readName?_nameText_append (name : String) {rest : List Char} (hrest : Apart rest) :
    readName? (nameText name.toList ++ rest) = some (name, rest) := by
  rw [readName?_of_token (nextToken?_nameText name.toList hrest), nameOf?_nameToken,
    Option.map_some]

/-- Names that are written alike, whatever follows them, are the same. -/
theorem eq_of_nameText_append_eq {name other : String} {rest after : List Char}
    (hrest : Apart rest) (hafter : Apart after)
    (h : nameText other.toList ++ after = nameText name.toList ++ rest) :
    other = name ∧ after = rest := by
  have hother := readName?_nameText_append other hafter
  rw [h, readName?_nameText_append name hrest] at hother
  cases hother
  exact ⟨rfl, rfl⟩

theorem nameText_injective {name other : String}
    (h : nameText other.toList = nameText name.toList) : other = name := by
  have happend : nameText other.toList ++ [] = nameText name.toList ++ [] := by rw [h]
  exact (eq_of_nameText_append_eq apart_nil apart_nil happend).1

theorem toList_toLower (name : String) : name.toLower.toList = name.toList.map Char.toLower :=
  String.toList_map

/-- What is written bare is in lower case. -/
theorem toLower_of_isBare {name : String} (h : isBare name.toList = true) :
    name.toLower = name := by
  have hall : ∀ c ∈ name.toList, isBareChar c = true := by
    simp only [isBare, Bool.and_eq_true, List.all_eq_true] at h
    exact h.1.2
  rw [← String.toList_inj, toList_toLower]
  exact (List.map_congr_left fun c hc => toLower_of_isBareChar (hall c hc)).trans (List.map_id' _)

theorem isBare_of_mem_reservedWords {name : String} (h : name.toLower ∈ reservedWords) :
    isBare name.toList = false := by
  refine Bool.eq_false_iff.2 fun hbare => ?_
  rw [toLower_of_isBare hbare] at h
  simp only [isBare, Bool.and_eq_true, Bool.not_eq_true', String.ofList_toList] at hbare
  rw [List.contains_iff_mem.2 h] at hbare
  cases hbare.2

theorem toLower_eq_or_isAlpha (c : Char) : c.toLower = c ∨ c.isAlpha = true := by
  by_cases h : 'A'.val ≤ c.val ∧ c.val ≤ 'Z'.val
  · have hupper : c.isUpper = true := decide_eq_true h
    exact .inr (Bool.or_eq_true_iff.2 (.inl hupper))
  · exact .inl (dif_neg h)

theorem isWordStart_of_isAlpha {c : Char} (h : c.isAlpha = true) : isWordStart c = true := by
  rw [isWordStart, h, Bool.true_or, Bool.true_or]

theorem isWordStart_of_toLower {c : Char} (h : isWordStart c.toLower = true) :
    isWordStart c = true := by
  rcases toLower_eq_or_isAlpha c with hc | hc
  · rwa [hc] at h
  · exact isWordStart_of_isAlpha hc

/-- Case makes no difference to whether a character belongs to a word. -/
theorem isWordChar_of_toLower {c : Char} (h : isWordChar c.toLower = true) :
    isWordChar c = true := by
  rcases toLower_eq_or_isAlpha c with hc | hc
  · rwa [hc] at h
  · rw [isWordChar, isWordStart_of_isAlpha hc, Bool.true_or, Bool.true_or]

/-- A reserved word is read as a word of the language, in whatever case it is spelt. -/
theorem nextToken?_reservedWord {name : String} (h : name.toLower ∈ reservedWords)
    {rest : List Char} (hrest : Apart rest) :
    nextToken? (name.toList ++ rest) = some (.word name.toLower.toList, rest) := by
  have hwords : reservedWords.all (fun word => isWord word.toList) = true := by decide +kernel
  have hword := List.all_eq_true.1 hwords _ h
  rw [toList_toLower] at hword ⊢
  cases hname : name.toList with
  | nil =>
    rw [hname] at hword
    cases hword
  | cons c run =>
    rw [hname, List.map_cons, isWord, Bool.and_eq_true, List.all_map, List.all_eq_true] at hword
    exact nextToken?_word (isWordStart_of_toLower hword.1)
      (fun d hd => isWordChar_of_toLower (hword.2 d hd)) fun d hd => (hrest d hd).1

/-- How a name is told from everything else by its text, with `rest` after it. -/
structure IsReadBack (name : String) (rest : List Char) : Prop where
  reads : readName? (nameText name.toList ++ rest) = some (name, rest)
  /-- The text has no other reading, -/
  onlyReading : ∀ other after, Spells (nameText name.toList ++ rest) other after →
    other = name ∧ after = rest
  /-- and no other name has this text, or one that starts with it and goes on like it. -/
  onlyText : ∀ other after, Apart after →
    nameText other.toList ++ after = nameText name.toList ++ rest → other = name ∧ after = rest
  injective : ∀ other, other ≠ name → nameText other.toList ≠ nameText name.toList
  /-- Of names that differ in case at most one is written bare, and they are read as different. -/
  cased : ∀ other, other ≠ name → other.toLower = name.toLower →
    (isBare other.toList = false ∨ isBare name.toList = false)
      ∧ ∀ after, Apart after → (readName? (nameText other.toList ++ after)).map (·.1)
        ≠ (readName? (nameText name.toList ++ rest)).map (·.1)
  /-- A name that spells a reserved word is no word to the database, and bare it is no name. -/
  reserved : name.toLower ∈ reservedWords →
    nextToken? (nameText name.toList ++ rest) = some (.quoted name.toList, rest)
      ∧ nextToken? (name.toList ++ rest) = some (.word name.toLower.toList, rest)
      ∧ readName? (name.toList ++ rest) = none

/-- A name is read back from its text, whatever the name is and whatever follows that is no part of
it; and no other name is written like it. -/
theorem isReadBack_nameText (name : String) {rest : List Char} (hrest : Apart rest) :
    IsReadBack name rest where
  reads := readName?_nameText_append name hrest
  onlyReading := by
    intro other after hspells
    have hreads := readName?_eq_some_iff.2 hspells
    rw [readName?_nameText_append name hrest] at hreads
    cases hreads
    exact ⟨rfl, rfl⟩
  onlyText := fun _ _ hafter => eq_of_nameText_append_eq hrest hafter
  injective := fun _ hne h => hne (nameText_injective h)
  cased := by
    intro other hne hlower
    constructor
    · cases hbare : isBare name.toList with
      | false => exact .inr rfl
      | true =>
        -- both would be their common form in lower case
        refine .inl (Bool.eq_false_iff.2 fun hother => hne ?_)
        rw [← toLower_of_isBare hother, hlower, toLower_of_isBare hbare]
    · intro after hafter hsame
      rw [readName?_nameText_append other hafter, readName?_nameText_append name hrest] at hsame
      exact hne (Option.some.inj hsame)
  reserved := by
    intro hreserved
    have htoken := nextToken?_nameText name.toList hrest
    have hword := nextToken?_reservedWord hreserved hrest
    rw [nameToken, isBare_of_mem_reservedWords hreserved] at htoken
    refine ⟨htoken, hword, ?_⟩
    rw [readName?_of_token hword, nameOf?_word, String.ofList_toList, if_pos hreserved,
      Option.map_none]

/-- A name that is a reserved word but for its case, in front of a comparison: it is written between
quotes, so that it is neither that word nor the name in lower case. -/
theorem isReadBack_nameText_user :
    Apart " = $1".toList ∧ "User".toLower ∈ reservedWords
      ∧ nameText "User".toList = "\"User\"".toList ∧ IsReadBack "User" " = $1".toList := by
  have hrest : Apart " = $1".toList := apart_cons (by decide) (by decide)
  exact ⟨hrest, by decide +kernel, by decide, isReadBack_nameText "User" hrest⟩

end RowBindings.Statement
