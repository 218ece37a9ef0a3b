import RowBindings.Proofs.Text.Lines
import RowBindings.Text.StringLiteral
import Mathlib.Tactic.SplitIfs

/-!
# String literals read back

A literal is read by the escape rules of the generated language: characters stand for themselves but
for quotes and backslashes, and an escape may name a character by its code. Reading the literal for
a text gives the text, and stops where the literal ends. A literal never leaves its line.
-/

namespace RowBindings.Text

/-! ## The escape rules -/

/-- The value of a hexadecimal digit. -/
def hexValue? (c : Char) : Option Nat :=
  if c.isDigit then some (c.toNat - '0'.toNat)
  else if 'a' ≤ c ∧ c ≤ 'f' then some (c.toNat - 'a'.toNat + 10)
  else if 'A' ≤ c ∧ c ≤ 'F' then some (c.toNat - 'A'.toNat + 10)
  else none

/-- The character that a single one stands for after a backslash. -/
def escaped? : Char → Option Char
  | 'n' => some '\n'
  | 'r' => some '\r'
  | 't' => some '\t'
  | '\\' => some '\\'
  | '0' => some '\x00'
  | '"' => some '"'
  | '\x27' => some '\x27'
  | _ => none

/-- Where the reading of a literal stands. -/
inductive LiteralState
  /-- Between characters; after an escaped end of line, white space is skipped. -/
  | between (skipping : Bool)
  /-- After a backslash. -/
  | escape
  /-- In an escape of two digits. -/
  | byte (high : Option Nat)
  /-- Before the brace of an escape of up to six digits. -/
  | brace
  /-- After some of these digits. -/
  | code (digits value : Nat)

/-- The text of a literal from within it, and what follows the literal. -/
def readLiteralFrom? : LiteralState → List Char → Option (List Char × List Char)
  | _, [] => none
  | .between skipping, c :: rest =>
    if skipping && [' ', '\t', '\n', '\r'].contains c then readLiteralFrom? (.between true) rest
    else if c = '"' then some ([], rest)
    else if c = '\\' then readLiteralFrom? .escape rest
    else if c = '\r' then none
    else (readLiteralFrom? (.between false) rest).map fun (text, after) => (c :: text, after)
  | .escape, c :: rest =>
    match escaped? c with
    | some d =>
      (readLiteralFrom? (.between false) rest).map fun (text, after) => (d :: text, after)
    | none =>
      if c = 'x' then readLiteralFrom? (.byte none) rest
      else if c = 'u' then readLiteralFrom? .brace rest
      else if c = '\n' then readLiteralFrom? (.between true) rest
      else none
  | .byte none, c :: rest =>
    match hexValue? c with
    | some d => if d < 8 then readLiteralFrom? (.byte (some d)) rest else none
    | none => none
  | .byte (some high), c :: rest =>
    match hexValue? c with
    | some d => (readLiteralFrom? (.between false) rest).map fun (text, after) =>
        (Char.ofNat (16 * high + d) :: text, after)
    | none => none
  | .brace, c :: rest => if c = '\x7b' then readLiteralFrom? (.code 0 0) rest else none
  | .code digits value, c :: rest =>
    if c = '\x7d' then
      if 0 < digits ∧ value.isValidChar then
        (readLiteralFrom? (.between false) rest).map fun (text, after) =>
          (Char.ofNat value :: text, after)
      else none
    else if c = '_' ∧ 0 < digits then readLiteralFrom? (.code digits value) rest
    else match hexValue? c with
      | some d =>
        if digits < 6 then readLiteralFrom? (.code (digits + 1) (16 * value + d)) rest else none
      | none => none

/-- The text that the literal at the start of a text stands for, and what follows it. -/
def readLiteral? : List Char → Option (List Char × List Char)
  | '"' :: rest => readLiteralFrom? (.between false) rest
  | _ => none

/-! ## Digits -/

theorem hexValue?_hexDigit {d : Nat} (hd : d < 16) : hexValue? (hexDigit d) = some d := by
  have hall : ∀ i : Fin 16, hexValue? (hexDigit i) = some i.val := by decide
  exact hall ⟨d, hd⟩

theorem hexDigit_ne {d : Nat} (hd : d < 16) : hexDigit d ≠ '\x7d' ∧ hexDigit d ≠ '_' := by
  have hall : ∀ i : Fin 16, hexDigit i ≠ '\x7d' ∧ hexDigit i ≠ '_' := by decide
  exact hall ⟨d, hd⟩

/-- A digit is added at the end of the number read. -/
theorem readLiteralFrom?_hexDigit {d digits value : Nat} (hd : d < 16) (hdigits : digits < 6)
    (rest : List Char) :
    readLiteralFrom? (.code digits value) (hexDigit d :: rest)
      = readLiteralFrom? (.code (digits + 1) (16 * value + d)) rest := by
  obtain ⟨hbrace, hunderscore⟩ := hexDigit_ne hd
  rw [readLiteralFrom?, if_neg hbrace, if_neg (fun h => hunderscore h.1), hexValue?_hexDigit hd]
  exact if_pos hdigits

theorem readLiteralFrom?_singleDigit {k : Nat} (hk : k < 16) (rest : List Char) :
    readLiteralFrom? (.code 0 0) (hexDigits k ++ rest) = readLiteralFrom? (.code 1 k) rest := by
  rw [hexDigits, dif_pos hk, List.singleton_append, readLiteralFrom?_hexDigit hk (by decide),
    Nat.mul_zero, Nat.zero_add, Nat.zero_add]

/-- The digits of a number below a power of sixteen are at most as many as the exponent says, and
read as that number. -/
theorem readLiteralFrom?_hexDigits {n k : Nat} (hn : n < 6) (hk : k < Nat.pow 16 (n + 1))
    (rest : List Char) :
    ∃ digits, 0 < digits ∧ digits ≤ n + 1 ∧
      readLiteralFrom? (.code 0 0) (hexDigits k ++ rest)
        = readLiteralFrom? (.code digits k) rest := by
  induction n generalizing k rest with
  | zero => exact ⟨1, by decide, by decide, readLiteralFrom?_singleDigit hk rest⟩
  | succ n ih =>
    by_cases hsmall : k < 16
    · exact ⟨1, by decide, by omega, readLiteralFrom?_singleDigit hsmall rest⟩
    · have hhigh : k / 16 < Nat.pow 16 (n + 1) := by
        refine Nat.div_lt_of_lt_mul ?_
        rw [Nat.mul_comm]
        exact hk
      have hdigit : k % 16 < 16 := Nat.mod_lt k (by decide)
      obtain ⟨digits, hpos, hle, hread⟩ := ih (by omega) hhigh (hexDigit (k % 16) :: rest)
      refine ⟨digits + 1, by omega, by omega, ?_⟩
      rw [hexDigits, dif_neg hsmall, List.append_assoc, List.singleton_append, hread,
        readLiteralFrom?_hexDigit hdigit (by omega), Nat.div_add_mod]

/-! ## Texts -/

/-- An escape of the code of a character is read as the character. -/
theorem readLiteralFrom?_code (c : Char) (rest : List Char) :
    readLiteralFrom? (.between false) (['\\', 'u', '\x7b'] ++ hexDigits c.toNat ++ ['\x7d'] ++ rest)
      = (readLiteralFrom? (.between false) rest).map fun (text, after) => (c :: text, after) := by
  have hvalid : c.toNat.isValidChar := c.valid
  have hsize : c.toNat < 16777216 := by
    rcases hvalid with h | ⟨_, h⟩ <;> omega
  obtain ⟨digits, hpos, _, hread⟩ :=
    readLiteralFrom?_hexDigits (by decide : 5 < 6) hsize ('\x7d' :: rest)
  have hopen : readLiteralFrom? (.between false)
      (['\\', 'u', '\x7b'] ++ hexDigits c.toNat ++ ['\x7d'] ++ rest)
      = readLiteralFrom? (.code 0 0) (hexDigits c.toNat ++ '\x7d' :: rest) := by
    simp [readLiteralFrom?, escaped?]
  rw [hopen, hread, readLiteralFrom?, if_pos rfl, if_pos ⟨hpos, hvalid⟩, Char.ofNat_toNat]

/-- What is written for a character is read as that character. -/
theorem readLiteralFrom?_escapeChar (c : Char) (rest : List Char) :
    readLiteralFrom? (.between false) (escapeChar c ++ rest)
      = (readLiteralFrom? (.between false) rest).map fun (text, after) => (c :: text, after) := by
  by_cases hnull : c = '\x00'
  · subst hnull; rfl
  by_cases htab : c = '\t'
  · subst htab; rfl
  by_cases hreturn : c = '\r'
  · subst hreturn; rfl
  by_cases hline : c = '\n'
  · subst hline; rfl
  by_cases hbackslash : c = '\\'
  · subst hbackslash; rfl
  by_cases hquote : c = '"'
  · subst hquote; rfl
  rw [escapeChar, if_neg hnull, if_neg htab, if_neg hreturn, if_neg hline, if_neg hbackslash,
    if_neg hquote]
  split
  · rw [List.singleton_append, readLiteralFrom?, Bool.false_and, if_neg Bool.false_ne_true,
      if_neg hquote, if_neg hbackslash, if_neg hreturn]
  · exact readLiteralFrom?_code c rest

/-- The literal for a text is read as that text, whatever follows it. -/
theorem readLiteral?_literal (text rest : List Char) :
    readLiteral? (literal text ++ rest) = some (text, rest) := by
  have hbody : readLiteralFrom? (.between false) (text.flatMap escapeChar ++ ('"' :: rest))
      = some (text, rest) := by
    induction text with
    | nil => rfl
    | cons c text ih =>
      rw [List.flatMap_cons, List.append_assoc, readLiteralFrom?_escapeChar, ih]
      rfl
  rw [literal, List.append_assoc, List.cons_append, readLiteral?]
  exact hbody

/-! ## Lines -/

theorem newline_notMem_hexDigits (n : Nat) : '\n' ∉ hexDigits n := by
  have hdigit {d : Nat} (hd : d < 16) : '\n' ∉ [hexDigit d] := by
    have hall : ∀ i : Fin 16, '\n' ∉ [hexDigit i] := by decide
    exact hall ⟨d, hd⟩
  induction n using hexDigits.induct with
  | case1 n hsmall =>
    rw [hexDigits, dif_pos hsmall]
    exact hdigit hsmall
  | case2 n hlarge ih =>
    rw [hexDigits, dif_neg hlarge, List.mem_append, not_or]
    exact ⟨ih, hdigit (Nat.mod_lt n (by decide))⟩

/-- A line break is written as an escape, and so is no part of a literal. -/
theorem newline_notMem_escapeChar (c : Char) : '\n' ∉ escapeChar c := by
  rw [escapeChar]
  split_ifs with hzero htab hreturn hnewline hbackslash hquote hprintable
  · decide
  · decide
  · decide
  · decide
  · decide
  · decide
  · exact fun h => hnewline (List.mem_singleton.1 h).symm
  · have hopening : '\n' ∉ ['\\', 'u', '\x7b'] := by decide
    have hclosing : '\n' ∉ ['\x7d'] := by decide
    rw [List.mem_append, List.mem_append, not_or, not_or]
    exact ⟨⟨hopening, newline_notMem_hexDigits _⟩, hclosing⟩

/-- A literal keeps to its line, whatever the text. -/
theorem isOneLine_stringLiteral (text : String) : IsOneLine (stringLiteral text) := by
  have hquote : '\n' ∉ ['"'] := by decide
  have hescaped : '\n' ∉ text.toList.flatMap escapeChar := by
    intro h
    obtain ⟨c, -, hc⟩ := List.mem_flatMap.1 h
    exact newline_notMem_escapeChar c hc
  rw [IsOneLine, stringLiteral, String.toList_ofList, literal, List.cons_append, List.mem_cons,
    List.mem_append, not_or, not_or]
  exact ⟨by decide, hescaped, hquote⟩

end RowBindings.Text
