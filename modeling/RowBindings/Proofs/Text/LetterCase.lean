import Mathlib.Data.List.Basic
import RowBindings.Proofs.Text.Words

/-!
# The case of converted names

Words put together with capitals do not start with a small letter of the basic Latin block, and
words in lower case have no capital letter of it. Letters of other blocks that have their other case
in the basic Latin block, as the Kelvin sign has, are covered by the tables of letters.
-/

namespace RowBindings

namespace Unicode

/-! ## Letters of the basic Latin block -/

theorem isLower_iff {c : Char} : c.isLower = true ↔ 'a' ≤ c ∧ c ≤ 'z' := by
  change (decide (c.val ≥ 'a'.val) && decide (c.val ≤ 'z'.val)) = true ↔ _
  rw [Bool.and_eq_true, decide_eq_true_eq, decide_eq_true_eq]
  rfl

theorem isUpper_iff {c : Char} : c.isUpper = true ↔ 'A' ≤ c ∧ c ≤ 'Z' := decide_eq_true_iff

theorem isLower_iff_toNat {c : Char} : c.isLower = true ↔ 0x61 ≤ c.toNat ∧ c.toNat ≤ 0x7A :=
  isLower_iff

theorem isUpper_iff_toNat {c : Char} : c.isUpper = true ↔ 0x41 ≤ c.toNat ∧ c.toNat ≤ 0x5A :=
  isUpper_iff

theorem isLower_eq_false_of_toNat {c : Char} (h : c.toNat < 0x61 ∨ 0x7A < c.toNat) :
    c.isLower = false := by
  rw [Bool.eq_false_iff, Ne, isLower_iff_toNat]
  omega

theorem isUpper_eq_false_of_toNat {c : Char} (h : c.toNat < 0x41 ∨ 0x5A < c.toNat) :
    c.isUpper = false := by
  rw [Bool.eq_false_iff, Ne, isUpper_iff_toNat]
  omega

theorem isLower_toUpper (c : Char) : c.toUpper.isLower = false := by
  by_cases h : 'a'.val ≤ c.val ∧ c.val ≤ 'z'.val
  · have hupper : c.toUpper = ⟨c.val + ('A'.val - 'a'.val), _⟩ := dif_pos h
    have hcode : c.toUpper.toNat = (c.toNat + ('A'.val - 'a'.val).toNat) % 2 ^ 32 := by
      rw [hupper]
      exact UInt32.toNat_add _ _
    have hshift : ('A'.val - 'a'.val).toNat = 0xFFFFFFE0 := by decide
    have hcode' : 0x61 ≤ c.toNat ∧ c.toNat ≤ 0x7A := h
    apply isLower_eq_false_of_toNat
    omega
  · rw [show c.toUpper = c from dif_neg h, Bool.eq_false_iff, Ne, isLower_iff]
    exact h

theorem isUpper_toLower (c : Char) : c.toLower.isUpper = false := by
  by_cases h : c.val ≥ 'A'.val ∧ c.val ≤ 'Z'.val
  · have hlower : c.toLower = ⟨c.val + ('a'.val - 'A'.val), _⟩ := dif_pos h
    have hcode : c.toLower.toNat = (c.toNat + ('a'.val - 'A'.val).toNat) % 2 ^ 32 := by
      rw [hlower]
      exact UInt32.toNat_add _ _
    have hshift : ('a'.val - 'A'.val).toNat = 0x20 := by decide
    have hcode' : 0x41 ≤ c.toNat ∧ c.toNat ≤ 0x5A := h
    apply isUpper_eq_false_of_toNat
    omega
  · rw [show c.toLower = c from dif_neg h, Bool.eq_false_iff, Ne, isUpper_iff]
    exact h

theorem isAlphanum_eq (c : Char) : c.isAlphanum = (c.isUpper || c.isLower || c.isDigit) := rfl

/-! ## Tables of letters -/

/-- Whether a run maps no code point from 0x80 on to one from `low` to `high`. -/
def CaseRun.avoids (low high : Nat) (run : CaseRun) : Bool :=
  run.last < 0x80 || (high : Int) < run.first + run.shift || run.last + run.shift < (low : Int)

theorem CaseRun.avoids_map? {run : CaseRun} {low high n m : Nat}
    (havoids : run.avoids low high = true) (hn : 0x80 ≤ n) (hlow : 0 < low)
    (hm : run.map? n = some m) : m < low ∨ high < m := by
  rw [map?] at hm
  split at hm
  · next hcovers =>
    rw [Option.some.injEq] at hm
    simp only [avoids, Bool.or_eq_true, decide_eq_true_eq] at havoids
    omega
  · cases hm

theorem mem_of_lookup {sequences : List (Nat × List Nat)} {n : Nat} {codes : List Nat}
    (h : sequences.lookup n = some codes) : (n, codes) ∈ sequences := by
  obtain ⟨before, after, heq, -⟩ := List.lookup_eq_some_iff.1 h
  rw [heq]
  exact List.mem_append_right before List.mem_cons_self

/-- Tables that avoid a stretch of the basic Latin block map no letter of another block into it. -/
theorem mapCase_avoids {runs : List CaseRun} {sequences : List (Nat × List Nat)} {low high : Nat}
    (hruns : runs.all (·.avoids low high) = true)
    (hsequences : (sequences.all fun entry => entry.2.all fun n => n < low || high < n) = true)
    (hlow : 0 < low) (hhigh : high < 0x80) {c : Char} (hc : 0x80 ≤ c.toNat) :
    ∀ d ∈ mapCase runs sequences c, d.toNat < low ∨ high < d.toNat := by
  -- a code that is no character becomes the null character
  have hofNat {n : Nat} (hn : n < low ∨ high < n) :
      (Char.ofNat n).toNat < low ∨ high < (Char.ofNat n).toNat := by
    by_cases hvalid : n.isValidChar
    · have heq : Char.ofNat n = Char.ofNatAux n hvalid := dif_pos hvalid
      rw [heq]
      exact hn
    · have heq : (Char.ofNat n).toNat = 0 := congrArg Char.toNat (dif_neg hvalid)
      rw [heq]
      exact .inl hlow
  intro d hd
  rw [mapCase] at hd
  split at hd
  · next codes hlookup =>
    have hentry := List.all_eq_true.1 hsequences _ (mem_of_lookup hlookup)
    obtain ⟨n, hn, rfl⟩ := List.mem_map.1 hd
    have havoids := List.all_eq_true.1 hentry n hn
    rw [Bool.or_eq_true, decide_eq_true_eq, decide_eq_true_eq] at havoids
    exact hofNat havoids
  · split at hd
    · next n hfind =>
      obtain ⟨run, hrun, hmap⟩ := List.exists_of_findSome?_eq_some hfind
      rw [List.mem_singleton.1 hd]
      exact hofNat (CaseRun.avoids_map? (List.all_eq_true.1 hruns run hrun) hc hlow hmap)
    · rw [List.mem_singleton.1 hd]
      omega

theorem isLower_of_mem_upperChar {c d : Char} (h : d ∈ upperChar c) : d.isLower = false := by
  rw [upperChar] at h
  split at h
  · rw [List.mem_singleton.1 h]
    exact isLower_toUpper c
  · next hc =>
    apply isLower_eq_false_of_toNat
    exact mapCase_avoids (by decide) (by decide) (by decide) (by decide)
      (Nat.le_of_not_lt hc) d h

theorem isUpper_of_mem_lowerChar {c d : Char} (h : d ∈ lowerChar c) : d.isUpper = false := by
  rw [lowerChar] at h
  split at h
  · rw [List.mem_singleton.1 h]
    exact isUpper_toLower c
  · next hc =>
    apply isUpper_eq_false_of_toNat
    exact mapCase_avoids (by decide) (by decide) (by decide) (by decide)
      (Nat.le_of_not_lt hc) d h

theorem upperChar_ne_nil (c : Char) : upperChar c ≠ [] := by
  have hsequences : (upperSequences.all fun entry => !entry.2.isEmpty) = true := by decide
  rw [upperChar]
  split
  · exact List.cons_ne_nil _ _
  · rw [mapCase]
    split
    · next codes hlookup =>
      have hcodes := List.all_eq_true.1 hsequences _ (mem_of_lookup hlookup)
      intro hnil
      rw [List.map_eq_nil_iff.1 hnil] at hcodes
      exact Bool.noConfusion hcodes
    · split
      · exact List.cons_ne_nil _ _
      · exact List.cons_ne_nil _ _

/-! ## Texts -/

theorem isUpper_of_mem_lowerAfter {before cs : List Char} {d : Char}
    (h : d ∈ lowerAfter before cs) : d.isUpper = false := by
  induction cs generalizing before with
  | nil => cases h
  | cons c cs ih =>
    rw [lowerAfter] at h
    split at h
    · rcases List.mem_cons.1 h with rfl | h
      · split
        · decide
        · decide
      · exact ih h
    · rcases List.mem_append.1 h with h | h
      · exact isUpper_of_mem_lowerChar h
      · exact ih h

/-- A text in lower case has no capital letter of the basic Latin block. -/
theorem isUpper_of_mem_lower {cs : List Char} {d : Char} (h : d ∈ lower cs) : d.isUpper = false :=
  isUpper_of_mem_lowerAfter h

theorem graphemesFrom_ne_nil {cluster : List Char} (hcluster : cluster ≠ []) (ctx : BreakContext)
    (cs : List Char) : ∀ g ∈ graphemesFrom ctx cluster cs, g ≠ [] := by
  have hreverse : cluster.reverse ≠ [] := by rwa [Ne, List.reverse_eq_nil_iff]
  induction cs generalizing ctx cluster with
  | nil =>
    intro g hg
    rw [List.mem_singleton.1 hg]
    exact hreverse
  | cons c cs ih =>
    intro g hg
    rw [graphemesFrom] at hg
    split at hg
    · rcases List.mem_cons.1 hg with rfl | hg
      · exact hreverse
      · exact ih (List.cons_ne_nil c []) _ (List.cons_ne_nil c []) g hg
    · refine ih (List.cons_ne_nil c cluster) _ ?_ g hg
      rw [List.reverse_cons]
      exact List.append_ne_nil_of_right_ne_nil _ (List.cons_ne_nil c [])

/-- No cluster is empty. -/
theorem graphemes_ne_nil (cs : List Char) : ∀ g ∈ graphemes cs, g ≠ [] := by
  cases cs with
  | nil => exact fun _ hg => nomatch hg
  | cons c cs => exact graphemesFrom_ne_nil (List.cons_ne_nil c []) _ cs

end Unicode

namespace Text

open Unicode

/-! ## Words -/

theorem mem_of_mem_wordsFrom {word gs w : List Cluster} (hw : w ∈ wordsFrom word gs) :
    ∀ g ∈ w, g ∈ word ∨ g ∈ gs := by
  induction gs generalizing word with
  | nil =>
    intro g hg
    rw [List.mem_singleton.1 hw] at hg
    exact .inl (List.mem_reverse.1 hg)
  | cons h gs ih =>
    -- what is read after a word has ended does not go back into it
    have hrest (hw : w ∈ wordsFrom [] gs) : ∀ g ∈ w, g ∈ word ∨ g ∈ h :: gs := by
      intro g hg
      exact .inr (List.mem_cons_of_mem h ((ih hw g hg).resolve_left List.not_mem_nil))
    intro g hg
    rw [wordsFrom] at hw
    split at hw
    · rcases List.mem_cons.1 hw with rfl | hw
      · exact .inl (List.mem_reverse.1 hg)
      · exact hrest hw g hg
    · split at hw
      · rcases List.mem_cons.1 hw with rfl | hw
        · rcases List.mem_cons.1 (List.mem_reverse.1 hg) with rfl | hg
          · exact .inr List.mem_cons_self
          · exact .inl hg
        · exact hrest hw g hg
      · rcases ih hw g hg with hg | hg
        · rcases List.mem_cons.1 hg with rfl | hg
          · exact .inr List.mem_cons_self
          · exact .inl hg
        · exact .inr (List.mem_cons_of_mem h hg)

/-- The clusters of the words of a name are clusters of the name, so that none is empty. -/
theorem ne_nil_of_mem_words {name : List Char} {w : List Cluster} (hw : w ∈ words name) :
    ∀ g ∈ w, g ≠ [] := by
  intro g hg
  have hmem := (mem_of_mem_wordsFrom hw g hg).resolve_left List.not_mem_nil
  exact graphemes_ne_nil name g hmem

theorem isLower_head?_capitalise {w : List Cluster} (hw : ∀ g ∈ w, g ≠ []) :
    ∀ c ∈ (capitalise w).head?, c.isLower = false := by
  cases w with
  | nil => exact fun _ hc => nomatch hc
  | cons g w =>
    obtain ⟨first, rest, rfl⟩ := List.exists_cons_of_ne_nil (hw g List.mem_cons_self)
    intro c hc
    rw [capitalise, upper, List.flatMap_cons, List.append_assoc,
      List.head?_append_of_ne_nil _ (upperChar_ne_nil first)] at hc
    exact isLower_of_mem_upperChar (List.mem_of_mem_head? hc)

/-- A capitalised name does not start with a small letter of the basic Latin block. -/
theorem isLower_head?_toPascal (name : List Char) :
    ∀ c ∈ (toPascal name).head?, c.isLower = false := by
  intro c hc
  rw [toPascal, List.head?_flatten] at hc
  obtain ⟨cs, hcs, hhead⟩ := List.exists_of_findSome?_eq_some hc
  obtain ⟨w, hw, rfl⟩ := List.mem_map.1 hcs
  exact isLower_head?_capitalise (ne_nil_of_mem_words hw) c hhead

/-- A name in lower case with underscores has no capital letter of the basic Latin block. -/
theorem isUpper_of_mem_toSnake {name : List Char} {c : Char} (hc : c ∈ toSnake name) :
    c.isUpper = false := by
  rcases mem_joinWith hc with hc | ⟨cs, hcs, hc⟩
  · rw [List.mem_singleton.1 hc]
    decide
  · obtain ⟨w, -, rfl⟩ := List.mem_map.1 hcs
    exact isUpper_of_mem_lower hc

end Text

end RowBindings
