import Mathlib.Data.List.Chain
import Mathlib.Data.List.Infix
import RowBindings.Proofs.Catalog.TypeText

/-!
# Stripping modifiers

What stripping makes of a text is tidy: without parentheses, without white space at either end, and
with single blanks inside. A tidy text is left as it is. A group in parentheses may be taken out
before a text is stripped: that changes nothing, wherever the group stands and whatever parentheses
around it are left open or close none.
-/

namespace RowBindings.Catalog

open Unicode

/-! ## Tidy texts -/

/-- White space inside is a single blank, and none is at the end. -/
structure SingleBlanks (cs : List Char) : Prop where
  getLast : ∀ c ∈ cs.getLast?, isBlank c = false
  eq_space : ∀ c ∈ cs, isBlank c = true → c = ' '
  apart : cs.IsChain fun c d => isBlank c = false ∨ isBlank d = false

/-- White space inside is a single blank, and none is at either end. -/
structure IsSpaced (cs : List Char) : Prop extends SingleBlanks cs where
  head : ∀ c ∈ cs.head?, isBlank c = false

/-- No parentheses, no white space at either end, and single blanks inside. -/
def IsTidy (text : String) : Prop :=
  (∀ c ∈ text.toList, c ≠ '(' ∧ c ≠ ')') ∧ IsSpaced text.toList

theorem SingleBlanks.tail {c : Char} {cs : List Char} (h : SingleBlanks (c :: cs)) :
    SingleBlanks cs where
  getLast := by
    intro d hd
    apply h.getLast
    rw [List.getLast?_cons, Option.mem_def.1 hd]
    rfl
  eq_space := fun d hd => h.eq_space d (List.mem_cons_of_mem c hd)
  apart := (List.isChain_cons.1 h.apart).2

/-- A blank inside is followed by something that starts with no white space. -/
theorem SingleBlanks.after_blank {c : Char} {cs : List Char} (h : SingleBlanks (c :: cs))
    (hblank : isBlank c = true) : cs ≠ [] ∧ IsSpaced cs := by
  constructor
  · rintro rfl
    have hlast := h.getLast c rfl
    rw [hblank] at hlast
    exact Bool.noConfusion hlast
  · refine ⟨h.tail, fun d hd => ?_⟩
    rcases (List.isChain_cons.1 h.apart).1 d hd with hc | hd
    · rw [hblank] at hc
      exact Bool.noConfusion hc
    · exact hd

/-- Words read off a text with single blanks are joined to that text again. -/
theorem joinWith_blankSeparatedAux (word : List Char) {cs : List Char} (h : SingleBlanks cs)
    (hhead : word = [] → ∀ c ∈ cs.head?, isBlank c = false) :
    Text.joinWith [' '] (blankSeparatedAux word cs) = word.reverse ++ cs := by
  -- `word` is the run being read: a blank may come next only where it is not empty
  induction cs generalizing word with
  | nil =>
    cases word with
    | nil => rfl
    | cons c word => exact (List.append_nil _).symm
  | cons c cs ih =>
    rw [blankSeparatedAux]
    by_cases hblank : isBlank c = true
    · have hword : word ≠ [] := by
        intro hnil
        have hc := hhead hnil c rfl
        rw [hblank] at hc
        exact Bool.noConfusion hc
      obtain ⟨hne, hspaced⟩ := h.after_blank hblank
      have hrest := ih [] hspaced.toSingleBlanks fun _ => hspaced.head
      rw [List.reverse_nil, List.nil_append] at hrest
      rw [if_pos hblank, if_neg (by rwa [List.isEmpty_iff]), Text.joinWith, hrest,
        h.eq_space c List.mem_cons_self hblank, List.append_assoc, List.singleton_append]
      -- a blank is written after the word since more words come
      intro hnil
      rw [hnil] at hrest
      exact hne hrest.symm
    · rw [if_neg hblank, ih (c :: word) h.tail fun hnil => absurd hnil (List.cons_ne_nil c word),
        List.reverse_cons, List.append_assoc, List.singleton_append]

theorem isSpaced_nil : IsSpaced [] where
  getLast := fun _ h => nomatch h
  eq_space := fun _ h => nomatch h
  apart := .nil
  head := fun _ h => nomatch h

theorem isChain_of_isWord {w : List Char} (h : IsWord w) :
    w.IsChain fun c d => isBlank c = false ∨ isBlank d = false := by
  refine List.isChain_iff_forall_rel_of_append_cons_cons.2 fun c d before after heq => .inl ?_
  apply h.isBlank_eq_false
  rw [heq]
  exact List.mem_append_right before List.mem_cons_self

theorem isSpaced_of_isWord {w : List Char} (h : IsWord w) : IsSpaced w where
  getLast := fun c hc => h.isBlank_eq_false c (List.mem_of_getLast? hc)
  eq_space := by
    intro c hc hblank
    rw [h.isBlank_eq_false c hc] at hblank
    exact Bool.noConfusion hblank
  apart := isChain_of_isWord h
  head := fun c hc => h.isBlank_eq_false c (List.mem_of_head? hc)

/-- A word and a blank before a text that has single blanks. -/
theorem IsSpaced.after_word {w cs : List Char} (hw : IsWord w) (h : IsSpaced cs) (hne : cs ≠ []) :
    IsSpaced (w ++ ' ' :: cs) where
  getLast := by
    intro c hc
    apply h.getLast
    rwa [List.getLast?_append_cons, List.getLast?_cons_of_ne_nil hne] at hc
  eq_space := by
    intro c hc hblank
    rcases List.mem_append.1 hc with hc | hc
    · exact (isSpaced_of_isWord hw).eq_space c hc hblank
    · rcases List.mem_cons.1 hc with rfl | hc
      · rfl
      · exact h.eq_space c hc hblank
  apart := by
    apply (isChain_of_isWord hw).append
    · exact List.isChain_cons.2 ⟨fun d hd => .inr (h.head d hd), h.apart⟩
    · exact fun c hc _ _ => .inl (hw.isBlank_eq_false c (List.mem_of_getLast? hc))
  head := by
    intro c hc
    rw [List.head?_append_of_ne_nil _ hw.ne_nil] at hc
    exact hw.isBlank_eq_false c (List.mem_of_head? hc)

theorem isSpaced_joinWith {words : List (List Char)} (h : ∀ w ∈ words, IsWord w) :
    IsSpaced (Text.joinWith [' '] words) := by
  induction words with
  | nil => exact isSpaced_nil
  | cons w words ih =>
    rw [List.forall_mem_cons] at h
    obtain ⟨hw, hwords⟩ := h
    cases words with
    | nil => exact isSpaced_of_isWord hw
    | cons next words =>
      have hrest := ih hwords
      have hne : Text.joinWith [' '] (next :: words) ≠ [] := by
        intro hnil
        have hread := blankSeparated_joinWith hwords
        rw [hnil] at hread
        exact absurd hread (List.cons_ne_nil next words).symm
      rw [Text.joinWith, List.append_assoc, List.singleton_append]
      · exact hrest.after_word hw hne
      · exact fun hnil => List.cons_ne_nil next words hnil

/-- Words with a blank between each two are what a tidy text consists of. -/
theorem isTidy_iff_isPlain (text : String) : IsTidy text ↔ IsPlain text := by
  constructor
  · rintro ⟨hparens, hspaced⟩
    refine ⟨hparens, blankSeparated text.toList, fun w hw => ?_, ?_⟩
    · exact (blankSeparatedAux_spec [] (fun _ h => nomatch h) text.toList w hw).1
    · exact (joinWith_blankSeparatedAux [] hspaced.toSingleBlanks fun _ => hspaced.head).symm
  · rintro ⟨hparens, words, hwords, htext⟩
    refine ⟨hparens, ?_⟩
    rw [htext]
    exact isSpaced_joinWith hwords

/-- What is stripped is tidy, whatever the text was. -/
theorem isTidy_stripModifiers (text : String) : IsTidy (stripModifiers text) :=
  (isTidy_iff_isPlain _).2 (isPlain_stripModifiers text)

/-- The tidy texts are those that stripping leaves as they are. -/
theorem isTidy_iff_stripModifiers_eq_self (text : String) :
    IsTidy text ↔ stripModifiers text = text := by
  rw [isTidy_iff_isPlain, stripModifiers_eq_self_iff]

/-! ## Groups in parentheses -/

/-- As many parentheses are closed as are opened, and none before it is opened. -/
structure IsBalanced (cs : List Char) : Prop where
  count_le : ∀ p, p <+: cs → p.count ')' ≤ p.count '('
  count_eq : cs.count '(' = cs.count ')'

/-- The parentheses open after a text, `depth` being open before it. -/
def openAfter (depth : Nat) : List Char → Nat
  | [] => depth
  | c :: rest =>
    if c = '(' then openAfter (depth + 1) rest
    else if c = ')' then openAfter (depth - 1) rest
    else openAfter depth rest

/-- A text is read up to any place, and on from there with the parentheses open at it. -/
theorem outsideParens_append (depth : Nat) (cs ds : List Char) :
    outsideParens depth (cs ++ ds)
      = outsideParens depth cs ++ outsideParens (openAfter depth cs) ds := by
  induction cs generalizing depth with
  | nil => rfl
  | cons c cs ih =>
    rw [List.cons_append, outsideParens, outsideParens, openAfter]
    by_cases hopen : c = '('
    · rw [if_pos hopen, if_pos hopen, if_pos hopen, ih]
    · rw [if_neg hopen, if_neg hopen, if_neg hopen]
      by_cases hclose : c = ')'
      · rw [if_pos hclose, if_pos hclose, if_pos hclose, ih]
      · rw [if_neg hclose, if_neg hclose, if_neg hclose]
        by_cases hzero : depth = 0
        · rw [if_pos hzero, if_pos hzero, ih, List.cons_append]
        · rw [if_neg hzero, if_neg hzero, ih]

/-- Wherever the text is cut, at most `k` parentheses are closed before that were not opened. -/
def ClosesAtMost (k : Nat) (cs : List Char) : Prop :=
  ∀ p, p <+: cs → p.count ')' ≤ k + p.count '('

theorem ClosesAtMost.cons_prefix {k : Nat} {c : Char} {cs p : List Char}
    (h : ClosesAtMost k (c :: cs)) (hp : p <+: cs) :
    (c :: p).count ')' ≤ k + (c :: p).count '(' :=
  h (c :: p) (List.cons_prefix_cons.2 ⟨rfl, hp⟩)

theorem ClosesAtMost.after_open {k : Nat} {cs : List Char} (h : ClosesAtMost k ('(' :: cs)) :
    ClosesAtMost (k + 1) cs := by
  intro p hp
  have hle := h.cons_prefix hp
  rw [List.count_cons_self, List.count_cons_of_ne (by decide)] at hle
  omega

theorem ClosesAtMost.after_close {k : Nat} {cs : List Char} (h : ClosesAtMost k (')' :: cs)) :
    ∃ j, k = j + 1 ∧ ClosesAtMost j cs := by
  have hcount {p : List Char} (hp : p <+: cs) : p.count ')' + 1 ≤ k + p.count '(' := by
    have hle := h.cons_prefix hp
    rwa [List.count_cons_self, List.count_cons_of_ne (by decide)] at hle
  cases k with
  | zero => exact absurd (hcount List.nil_prefix) (by decide)
  | succ j =>
    refine ⟨j, rfl, fun p hp => ?_⟩
    have hle := hcount hp
    omega

theorem ClosesAtMost.after_other {k : Nat} {c : Char} {cs : List Char}
    (h : ClosesAtMost k (c :: cs)) (hopen : c ≠ '(') (hclose : c ≠ ')') : ClosesAtMost k cs := by
  intro p hp
  have hle := h.cons_prefix hp
  rwa [List.count_cons_of_ne hclose, List.count_cons_of_ne hopen] at hle

theorem IsBalanced.closesAtMost {cs : List Char} (h : IsBalanced cs) (k : Nat) :
    ClosesAtMost k cs :=
  fun p hp => (h.count_le p hp).trans (Nat.le_add_left _ k)

/-- Where no more is closed than is open, every parenthesis counts. -/
theorem openAfter_add_count {k : Nat} {cs : List Char} (h : ClosesAtMost k cs) :
    openAfter k cs + cs.count ')' = k + cs.count '(' := by
  induction cs generalizing k with
  | nil => rfl
  | cons c cs ih =>
    rw [openAfter]
    by_cases hopen : c = '('
    · subst hopen
      have hcs := ih h.after_open
      rw [if_pos rfl, List.count_cons_self, List.count_cons_of_ne (by decide)]
      omega
    · by_cases hclose : c = ')'
      · subst hclose
        obtain ⟨j, rfl, hafter⟩ := h.after_close
        have hcs := ih hafter
        rw [if_neg hopen, if_pos rfl, Nat.add_sub_cancel, List.count_cons_self,
          List.count_cons_of_ne hopen]
        omega
      · rw [if_neg hopen, if_neg hclose, List.count_cons_of_ne hclose,
          List.count_cons_of_ne hopen]
        exact ih (h.after_other hopen hclose)

/-- Nothing is kept of a text that leaves one of the open parentheses open. -/
theorem outsideParens_eq_nil {k : Nat} {cs : List Char} (h : ClosesAtMost k cs) :
    outsideParens (k + 1) cs = [] := by
  induction cs generalizing k with
  | nil => rfl
  | cons c cs ih =>
    rw [outsideParens]
    by_cases hopen : c = '('
    · subst hopen
      rw [if_pos rfl]
      exact ih h.after_open
    · by_cases hclose : c = ')'
      · subst hclose
        obtain ⟨j, rfl, hafter⟩ := h.after_close
        rw [if_neg hopen, if_pos rfl, Nat.add_sub_cancel]
        exact ih hafter
      · rw [if_neg hopen, if_neg hclose, if_neg (Nat.succ_ne_zero k)]
        exact ih (h.after_other hopen hclose)

/-- A group is dropped, however many parentheses are open before it. -/
theorem outsideParens_group (depth : Nat) {cs : List Char} (h : IsBalanced cs) (rest : List Char) :
    outsideParens depth ('(' :: (cs ++ ')' :: rest)) = outsideParens depth rest := by
  have hdepth : openAfter (depth + 1) cs = depth + 1 := by
    have hcount := openAfter_add_count (h.closesAtMost (depth + 1))
    rw [h.count_eq] at hcount
    exact Nat.add_right_cancel hcount
  rw [outsideParens, if_pos rfl, outsideParens_append, outsideParens_eq_nil (h.closesAtMost depth),
    List.nil_append, hdepth]
  -- the closing parenthesis of the group
  rw [outsideParens, if_neg (by decide), if_pos rfl, Nat.add_sub_cancel]

theorem stripModifiers_group (before after : String) {group : String}
    (h : IsBalanced group.toList) :
    stripModifiers (before ++ "(" ++ group ++ ")" ++ after) = stripModifiers (before ++ after) := by
  have htext : (before ++ "(" ++ group ++ ")" ++ after).toList
      = before.toList ++ '(' :: (group.toList ++ ')' :: after.toList) := by
    simp only [String.toList_append, List.append_assoc]
    rfl
  rw [stripModifiers, stripModifiers, htext, String.toList_append, outsideParens_append,
    outsideParens_group _ h, ← outsideParens_append]

/-- What is stripped is tidy, what is tidy is left as it is, so that nothing is left to strip the
second time, and a group in parentheses makes no difference. -/
theorem stripModifiers_tidies (text : String) :
    IsTidy (stripModifiers text)
    ∧ (IsTidy text ↔ stripModifiers text = text)
    ∧ stripModifiers (stripModifiers text) = stripModifiers text
    ∧ ∀ before group after : String, IsBalanced group.toList →
        stripModifiers (before ++ "(" ++ group ++ ")" ++ after)
          = stripModifiers (before ++ after) := by
  have htidy := isTidy_stripModifiers text
  refine ⟨htidy, isTidy_iff_stripModifiers_eq_self text,
    (isTidy_iff_stripModifiers_eq_self _).1 htidy, ?_⟩
  intro before group after hbalanced
  exact stripModifiers_group before after hbalanced

/-- A group that holds groups, between a parenthesis that closes none and one that stays open. -/
theorem stripModifiers_tidies_timestamp :
    IsBalanced "(3) or (6)".toList
    ∧ stripModifiers (") timestamp " ++ "(" ++ "(3) or (6)" ++ ")" ++ " with  time ( zone")
      = stripModifiers (") timestamp " ++ " with  time ( zone")
    ∧ stripModifiers (") timestamp " ++ " with  time ( zone") = "timestamp with time" := by
  have hbalanced : IsBalanced "(3) or (6)".toList := by
    refine ⟨fun p hp => ?_, by decide⟩
    have hinits : ∀ q ∈ "(3) or (6)".toList.inits, q.count ')' ≤ q.count '(' := by decide
    exact hinits p ((List.mem_inits p _).2 hp)
  refine ⟨hbalanced, ?_, by decide⟩
  exact (stripModifiers_tidies ") timestamp ").2.2.2 _ _ _ hbalanced

end RowBindings.Catalog
