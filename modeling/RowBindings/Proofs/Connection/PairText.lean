import Mathlib.Data.List.Basic
import RowBindings.Connection.Settings
import RowBindings.Proofs.Identifier
import RowBindings.Proofs.Text.Lines
import RowBindings.Unicode.Blank

/-!
# Settings as a text of pairs

The client of the database reads a text of pairs of a name and a value, with white space between
them. A value is a run of characters without white space, or stands in quotes. Values are written
into the text of settings as they are. So the settings are read back just where each value is such a
run and does not start with a quote: a pair never takes less room than its name and its value, and
it takes more where the value is read in another way, which the other pairs then lack.
-/

namespace RowBindings.Connection

open RowBindings.Unicode

namespace PairText

/-- A name and a value. -/
abbrev Pair := List Char × List Char

variable {escapes : Bool} {cs name value rest after : List Char} {pair : Pair} {pairs : List Pair}

/-! ## Reading -/

/-- Reads a value without quotes, up to white space. It depends on the client whether a backslash
there stands for itself or, if `escapes` is set, gives the character that follows it. -/
def readBare (escapes : Bool) : List Char → List Char × List Char
  | [] => ([], [])
  | c :: rest =>
    if isBlank c then ([], c :: rest)
    else if escapes && c = '\\' then
      match rest with
      | [] => ([], [])
      | d :: rest => (d :: (readBare escapes rest).1, (readBare escapes rest).2)
    else (c :: (readBare escapes rest).1, (readBare escapes rest).2)
termination_by cs => cs.length

theorem readBare_of_isBlank {c : Char} (h : isBlank c = true) :
    readBare escapes (c :: rest) = ([], c :: rest) := by
  rw [readBare.eq_def]
  exact if_pos h

theorem readBare_of_plain {c : Char} (h : isBlank c = false ∧ (escapes = true → c ≠ '\\')) :
    readBare escapes (c :: rest)
      = (c :: (readBare escapes rest).1, (readBare escapes rest).2) := by
  have hescape : ¬ (escapes && decide (c = '\\')) = true := by
    rw [Bool.and_eq_true, decide_eq_true_eq]
    exact fun hset => h.2 hset.1 hset.2
  rw [readBare.eq_def]
  simp only [h.1, Bool.false_eq_true, if_false, if_neg hescape]

/-- Reads a value behind a quote, up to the next one. A backslash gives the character that follows
it. -/
def readQuoted : List Char → Option (List Char × List Char)
  | [] => none
  | '\'' :: rest => some ([], rest)
  | '\\' :: c :: rest => (readQuoted rest).map fun (value, after) => (c :: value, after)
  | c :: rest => (readQuoted rest).map fun (value, after) => (c :: value, after)

/-- Reads a value. -/
def readValue (escapes : Bool) : List Char → Option (List Char × List Char)
  | '\'' :: rest => readQuoted rest
  | cs => if (readBare escapes cs).1 = [] then none else some (readBare escapes cs)

theorem readValue_of_head? (h : cs.head? ≠ some '\'') :
    readValue escapes cs
      = if (readBare escapes cs).1 = [] then none else some (readBare escapes cs) := by
  unfold readValue
  split
  · exact absurd rfl h
  · rfl

/-- Whether a character can be in a name. -/
def isNameChar (c : Char) : Bool := !isBlank c && c != '='

/-- Reads a pair. There may be white space around the sign of equality. -/
def readPair (escapes : Bool) (cs : List Char) : Option (Pair × List Char) :=
  match cs.takeWhile isNameChar, trimStart (cs.dropWhile isNameChar) with
  | c :: name, '=' :: rest =>
    (readValue escapes (trimStart rest)).map fun (value, after) => ((c :: name, value), after)
  | _, _ => none

/-! ## Room -/

/-- The room that a text takes, with the white space in front of it. -/
def room (cs : List Char) : Nat := if cs = [] then 0 else cs.length + 1

theorem length_trimStart_le (cs : List Char) : (trimStart cs).length ≤ cs.length :=
  (List.dropWhile_suffix _).length_le

theorem room_trimStart_le (cs : List Char) : room (trimStart cs) ≤ cs.length + 1 := by
  have hle := length_trimStart_le cs
  unfold room
  split <;> omega

/-- White space in front of a text counts for its room. -/
theorem room_trimStart_le_of_head? (h : ∀ c ∈ cs.head?, isBlank c = true) :
    room (trimStart cs) ≤ cs.length := by
  cases cs with
  | nil => exact Nat.le_refl 0
  | cons c rest =>
    rw [trimStart, List.dropWhile_cons_of_pos (h c rfl)]
    exact room_trimStart_le rest

/-! ## Values -/

/-- A text that is read as it stands, up to white space. -/
def IsRun (escapes : Bool) (value : List Char) : Prop :=
  ∀ c ∈ value, isBlank c = false ∧ (escapes = true → c ≠ '\\')

/-- A value that is read as it stands. -/
structure IsBare (escapes : Bool) (value : List Char) : Prop where
  ne_nil : value ≠ []
  head?_ne : value.head? ≠ some '\''
  isRun : IsRun escapes value

instance (escapes : Bool) (value : List Char) : Decidable (IsRun escapes value) :=
  List.decidableBAll (fun c => isBlank c = false ∧ (escapes = true → c ≠ '\\')) value

instance (escapes : Bool) (value : List Char) : Decidable (IsBare escapes value) :=
  decidable_of_iff (value ≠ [] ∧ value.head? ≠ some '\'' ∧ IsRun escapes value)
    ⟨fun ⟨hne, hhead, hrun⟩ => ⟨hne, hhead, hrun⟩, fun h => ⟨h.ne_nil, h.head?_ne, h.isRun⟩⟩

theorem isRun_nil : IsRun escapes [] := fun _ h => nomatch h

theorem IsRun.cons {c : Char} (hc : isBlank c = false ∧ (escapes = true → c ≠ '\\'))
    (h : IsRun escapes value) : IsRun escapes (c :: value) :=
  List.forall_mem_cons.2 ⟨hc, h⟩

theorem head?_readBare (escapes : Bool) (cs : List Char) :
    ∀ c ∈ (readBare escapes cs).2.head?, isBlank c = true := by
  fun_induction readBare escapes cs with
  | case1 => exact fun _ h => nomatch h
  | case2 c rest hblank =>
    rintro d ⟨⟩
    exact hblank
  | case3 => exact fun _ h => nomatch h
  | case4 c hblank hescape d rest ih => exact ih
  | case5 c rest hblank hescape ih => exact ih

/-- A value takes the room of its characters, and more where it is read in another way than as it
stands. -/
theorem length_readBare (escapes : Bool) (cs : List Char) :
    (readBare escapes cs).1.length + (readBare escapes cs).2.length < cs.length
    ∨ cs = (readBare escapes cs).1 ++ (readBare escapes cs).2
      ∧ IsRun escapes (readBare escapes cs).1 := by
  fun_induction readBare escapes cs with
  | case1 => exact Or.inr ⟨rfl, isRun_nil⟩
  | case2 c rest hblank => exact Or.inr ⟨rfl, isRun_nil⟩
  | case3 c hblank hescape => exact Or.inl Nat.one_pos
  | case4 c hblank hescape d rest ih =>
    left
    have hle : (readBare escapes rest).1.length + (readBare escapes rest).2.length
        ≤ rest.length := by
      rcases ih with hlt | ⟨heq, -⟩
      · exact Nat.le_of_lt hlt
      · have hlength := congrArg List.length heq
        rw [List.length_append] at hlength
        omega
    simp only [List.length_cons]
    omega
  | case5 c rest hblank hescape ih =>
    rcases ih with hlt | ⟨heq, hrun⟩
    · left
      simp only [List.length_cons]
      omega
    · right
      refine ⟨by rw [List.cons_append, ← heq], hrun.cons ⟨by simpa using hblank, ?_⟩⟩
      intro hset
      simpa [hset] using hescape

/-- A run is read up to the white space behind it. -/
theorem readBare_append (hvalue : IsRun escapes value)
    (hafter : ∀ c ∈ after.head?, isBlank c = true) :
    readBare escapes (value ++ after) = (value, after) := by
  induction value with
  | nil =>
    cases after with
    | nil => rw [List.nil_append, readBare.eq_def]
    | cons c rest => exact readBare_of_isBlank (hafter c rfl)
  | cons c value ih =>
    obtain ⟨hc, hvalue⟩ := List.forall_mem_cons.1 hvalue
    rw [List.cons_append, readBare_of_plain hc, ih hvalue]

/-- A value in quotes takes the room of the quote behind it, too. -/
theorem length_lt_of_readQuoted (h : readQuoted cs = some (value, after)) :
    value.length + after.length < cs.length := by
  fun_induction readQuoted cs generalizing value with
  | case1 => cases h
  | case2 rest =>
    cases h
    simp
  | case3 c rest ih =>
    obtain ⟨⟨read, left⟩, hread, heq⟩ := Option.map_eq_some_iff.1 h
    cases heq
    have hlt := ih hread
    simp only [List.length_cons]
    omega
  | case4 c rest _ _ ih =>
    obtain ⟨⟨read, left⟩, hread, heq⟩ := Option.map_eq_some_iff.1 h
    cases heq
    have hlt := ih hread
    simp only [List.length_cons]
    omega

/-- A value and what follows it, without the white space in front, have room in the text they are
read from. They take all of it only where the value is read as it stands. -/
theorem room_readValue (h : readValue escapes cs = some (value, after)) :
    value.length + room (trimStart after) < cs.length
    ∨ value.length + room (trimStart after) = cs.length
      ∧ cs = value ++ after ∧ IsBare escapes value := by
  by_cases hquote : cs.head? = some '\''
  · obtain ⟨rest, rfl⟩ : ∃ rest, cs = '\'' :: rest := List.head?_eq_some_iff.1 hquote
    have hlt := length_lt_of_readQuoted h
    have hroom := room_trimStart_le after
    left
    rw [List.length_cons]
    omega
  · rw [readValue_of_head? hquote] at h
    split at h
    · cases h
    · next hne =>
      have hread : readBare escapes cs = (value, after) := Option.some.inj h
      have hroom := room_trimStart_le_of_head? (head?_readBare escapes cs)
      have hlength := length_readBare escapes cs
      rw [hread] at hne hroom hlength
      dsimp only at hne hroom hlength
      rcases hlength with hlt | ⟨heq, hrun⟩
      · left
        exact Nat.lt_of_le_of_lt (Nat.add_le_add_left hroom _) hlt
      · by_cases hsame : room (trimStart after) = after.length
        · right
          refine ⟨by rw [hsame, heq, List.length_append], heq, hne, fun hhead => ?_, hrun⟩
          rw [heq, List.head?_append_of_ne_nil _ hne] at hquote
          exact hquote hhead
        · left
          rw [heq, List.length_append]
          have hless := Nat.lt_of_le_of_ne hroom hsame
          omega

/-- A value that is read as it stands is read up to the white space behind it. -/
theorem readValue_append (hvalue : IsBare escapes value)
    (hafter : ∀ c ∈ after.head?, isBlank c = true) :
    readValue escapes (value ++ after) = some (value, after) := by
  have hhead : (value ++ after).head? ≠ some '\'' := by
    rw [List.head?_append_of_ne_nil _ hvalue.ne_nil]
    exact hvalue.head?_ne
  rw [readValue_of_head? hhead, readBare_append hvalue.isRun hafter, if_neg hvalue.ne_nil]

/-! ## Pairs -/

/-- A name as it is read up to a sign of equality. -/
def IsName (name : List Char) : Prop :=
  name ≠ [] ∧ ∀ c ∈ name, isNameChar c = true

theorem readPair_append (hname : IsName name) :
    readPair escapes (name ++ '=' :: rest)
      = (readValue escapes (trimStart rest)).map fun (value, after) => ((name, value), after) := by
  obtain ⟨hne, hchars⟩ := hname
  have htake : (name ++ '=' :: rest).takeWhile isNameChar = name := by
    rw [List.takeWhile_append_of_pos hchars, List.takeWhile_cons_of_neg (by decide),
      List.append_nil]
  have hdrop : trimStart ((name ++ '=' :: rest).dropWhile isNameChar) = '=' :: rest := by
    rw [List.dropWhile_append_of_pos hchars, List.dropWhile_cons_of_neg (by decide)]
    exact List.dropWhile_cons_of_neg (by decide)
  obtain ⟨c, name, rfl⟩ := List.exists_cons_of_ne_nil hne
  unfold readPair
  rw [htake, hdrop]
  rfl

theorem room_readPair (h : readPair escapes cs = some (pair, after)) :
    pair.1.length + pair.2.length + 1 + room (trimStart after) ≤ cs.length := by
  unfold readPair at h
  split at h
  · next c name rest hname hrest =>
    obtain ⟨⟨value, left⟩, hvalue, heq⟩ := Option.map_eq_some_iff.1 h
    cases heq
    have hsplit : (cs.takeWhile isNameChar ++ cs.dropWhile isNameChar).length = cs.length := by
      rw [List.takeWhile_append_dropWhile]
    have hafter := length_trimStart_le (cs.dropWhile isNameChar)
    have hstart := length_trimStart_le rest
    rw [List.length_append, hname] at hsplit
    rw [hrest, List.length_cons] at hafter
    have hroom : value.length + room (trimStart after) ≤ (trimStart rest).length := by
      rcases room_readValue hvalue with hlt | ⟨heq, -⟩ <;> omega
    show (c :: name).length + value.length + 1 + room (trimStart after) ≤ cs.length
    omega
  · cases h

theorem length_lt_of_readPair (h : readPair escapes cs = some (pair, after)) :
    (trimStart after).length < cs.length := by
  have hroom := room_readPair h
  unfold room at hroom
  split at hroom
  · next hnil =>
    rw [hnil, List.length_nil]
    omega
  · omega

/-- Reads the pairs of a text. There may be white space in front of each pair and at the end. -/
def readPairs (escapes : Bool) (cs : List Char) : Option (List Pair) :=
  if trimStart cs = [] then some []
  else
    match _h : readPair escapes (trimStart cs) with
    | some (pair, after) => (readPairs escapes after).map (pair :: ·)
    | none => none
termination_by (trimStart cs).length
decreasing_by exact length_lt_of_readPair _h

theorem readPairs_eq (escapes : Bool) (cs : List Char) :
    readPairs escapes cs
      = if trimStart cs = [] then some []
        else (readPair escapes (trimStart cs)).bind fun (pair, after) =>
          (readPairs escapes after).map (pair :: ·) := by
  rw [readPairs]
  split
  · rfl
  · split
    · next hfirst => rw [hfirst, Option.bind_some]
    · next hnone => rw [hnone, Option.bind_none]

theorem readPairs_of_trimStart_eq_nil (h : trimStart cs = []) : readPairs escapes cs = some [] := by
  rw [readPairs_eq, if_pos h]

theorem readPairs_of_readPair (h : readPair escapes (trimStart cs) = some (pair, after)) :
    readPairs escapes cs = (readPairs escapes after).map (pair :: ·) := by
  have hne : trimStart cs ≠ [] := by
    intro hnil
    rw [hnil] at h
    cases h
  rw [readPairs_eq, if_neg hne, h, Option.bind_some]

theorem readPairs_cons_of_isBlank {c : Char} (h : isBlank c = true) :
    readPairs escapes (c :: cs) = readPairs escapes cs := by
  have htrim : trimStart (c :: cs) = trimStart cs := List.dropWhile_cons_of_pos h
  rw [readPairs_eq, readPairs_eq escapes cs, htrim]

/-- The first of the pairs that are read. -/
theorem exists_of_readPairs_cons (h : readPairs escapes cs = some (pair :: pairs)) :
    ∃ after, readPair escapes (trimStart cs) = some (pair, after)
      ∧ readPairs escapes after = some pairs := by
  rw [readPairs_eq] at h
  split at h
  · cases h
  · obtain ⟨⟨first, after⟩, hfirst, hafter⟩ := Option.bind_eq_some_iff.1 h
    obtain ⟨more, hmore, heq⟩ := Option.map_eq_some_iff.1 hafter
    cases heq
    exact ⟨after, hfirst, hmore⟩

/-! ## Writing -/

/-- Pairs as they are written behind others, each after a blank. -/
def spread (pairs : List Pair) : List Char :=
  pairs.flatMap fun (name, value) => ' ' :: name ++ '=' :: value

theorem spread_cons (name value : List Char) (pairs : List Pair) :
    spread ((name, value) :: pairs) = ' ' :: (name ++ '=' :: (value ++ spread pairs)) := by
  simp [spread]

theorem head?_spread (pairs : List Pair) : ∀ c ∈ (spread pairs).head?, isBlank c = true := by
  cases pairs with
  | nil => exact fun _ h => nomatch h
  | cons pair pairs =>
    rw [spread_cons]
    rintro c ⟨⟩
    decide

/-- Pairs that are read have room in the text they are read from. -/
theorem length_spread_le_room (h : readPairs escapes cs = some pairs) :
    (spread pairs).length ≤ room (trimStart cs) := by
  induction pairs generalizing cs with
  | nil => exact Nat.zero_le _
  | cons pair pairs ih =>
    obtain ⟨after, hfirst, hmore⟩ := exists_of_readPairs_cons h
    have hroom := room_readPair hfirst
    have hspread := ih hmore
    have hcs : room (trimStart cs) = (trimStart cs).length + 1 := by
      refine if_neg fun hnil => ?_
      rw [hnil, List.length_nil] at hroom
      omega
    rw [hcs, spread_cons]
    simp only [List.length_cons, List.length_append]
    omega

theorem trimStart_spread_cons (hname : IsName name) :
    trimStart (spread ((name, value) :: pairs)) = name ++ '=' :: (value ++ spread pairs) := by
  obtain ⟨hne, hchars⟩ := hname
  obtain ⟨c, name, rfl⟩ := List.exists_cons_of_ne_nil hne
  have hc : isBlank c = false := by
    have hchar := hchars c List.mem_cons_self
    rw [isNameChar, Bool.and_eq_true, Bool.not_eq_true'] at hchar
    exact hchar.1
  rw [spread_cons, trimStart, List.dropWhile_cons_of_pos (by decide), List.cons_append,
    List.dropWhile_cons_of_neg (by rw [hc]; exact Bool.false_ne_true)]

theorem IsBare.trimStart_append (h : IsBare escapes value) :
    trimStart (value ++ rest) = value ++ rest := by
  obtain ⟨c, value, rfl⟩ := List.exists_cons_of_ne_nil h.ne_nil
  have hc := (h.isRun c List.mem_cons_self).1
  exact List.dropWhile_cons_of_neg (by rw [hc]; exact Bool.false_ne_true)

/-- A text that gives back the first pair written in it has no room to spare: its value is bare, and
the other pairs are read from where they are written. -/
theorem isBare_of_readPairs_spread (hname : IsName name)
    (h : readPairs escapes (spread ((name, value) :: pairs)) = some ((name, value) :: pairs)) :
    IsBare escapes value ∧ readPairs escapes (spread pairs) = some pairs := by
  obtain ⟨after, hfirst, hmore⟩ := exists_of_readPairs_cons h
  rw [trimStart_spread_cons hname, readPair_append hname] at hfirst
  obtain ⟨⟨read, left⟩, hvalue, heq⟩ := Option.map_eq_some_iff.1 hfirst
  cases heq
  have hspread := length_spread_le_room hmore
  have htrim := length_trimStart_le (value ++ spread pairs)
  rw [List.length_append] at htrim
  rcases room_readValue hvalue with hlt | ⟨hroom, hread, hbare⟩
  · omega
  · have hstart : trimStart (value ++ spread pairs) = value ++ spread pairs := by
      refine (List.dropWhile_suffix _).eq_of_length ?_
      rw [← trimStart, List.length_append]
      omega
    rw [hstart, List.append_right_inj] at hread
    rw [hread]
    exact ⟨hbare, hmore⟩

/-- Pairs that are written are read back just where their values are bare. -/
theorem readPairs_spread_iff (hnames : ∀ pair ∈ pairs, IsName pair.1) :
    readPairs escapes (spread pairs) = some pairs ↔ ∀ pair ∈ pairs, IsBare escapes pair.2 := by
  induction pairs with
  | nil => exact iff_of_true (readPairs_of_trimStart_eq_nil rfl) (fun _ h => nomatch h)
  | cons pair pairs ih =>
    obtain ⟨name, value⟩ := pair
    obtain ⟨hname, hnames⟩ := List.forall_mem_cons.1 hnames
    rw [List.forall_mem_cons, ← ih hnames]
    constructor
    · exact isBare_of_readPairs_spread hname
    · rintro ⟨hvalue, hmore⟩
      have hread := readValue_append hvalue (head?_spread pairs)
      have hfirst : readPair escapes (trimStart (spread ((name, value) :: pairs)))
          = some ((name, value), spread pairs) := by
        rw [trimStart_spread_cons hname, readPair_append hname, hvalue.trimStart_append, hread]
        rfl
      rw [readPairs_of_readPair hfirst, hmore]
      rfl

theorem isBare_toString (escapes : Bool) (n : Nat) : IsBare escapes (toString n).toList := by
  rw [Nat.toString_eq_repr, Nat.toList_repr]
  have hdigit (c : Char) (hc : c ∈ Nat.toDigits 10 n) : c.isDigit = true :=
    Nat.isDigit_of_mem_toDigits (by decide) (by decide) hc
  refine ⟨Nat.toDigits_ne_nil, fun hhead => ?_, fun c hc => ⟨?_, fun _ => ?_⟩⟩
  · exact absurd (hdigit _ (List.mem_of_head? hhead)) (by decide)
  · apply Identifier.isBlank_of_isIdentifierChar
    rw [Identifier.isIdentifierChar, Identifier.isPlain, Char.isAlphanum, hdigit c hc, Bool.or_true,
      Bool.true_or, Bool.true_or]
  · rintro rfl
    exact absurd (hdigit _ hc) (by decide)

end PairText

namespace Parameters

open PairText

variable {escapes : Bool}

/-- The pairs that settings consist of. -/
def pairs (p : Parameters) : List Pair :=
  [("host".toList, p.host.toList), ("port".toList, (toString p.port.toNat).toList),
    ("dbname".toList, p.database.toList), ("user".toList, p.user.toList)]
  ++ (p.password.map fun password => ("password".toList, password.toList)).toList

/-- Every value is read as it stands. -/
structure IsBare (escapes : Bool) (p : Parameters) : Prop where
  host : PairText.IsBare escapes p.host.toList
  database : PairText.IsBare escapes p.database.toList
  user : PairText.IsBare escapes p.user.toList
  password : ∀ password ∈ p.password, PairText.IsBare escapes password.toList

/-- Settings are known by their pairs. -/
theorem pairs_injective {p q : Parameters} (h : p.pairs = q.pairs) : p = q := by
  obtain ⟨host, port, database, user, password⟩ := p
  obtain ⟨host', port', database', user', password'⟩ := q
  simp only [pairs, List.cons_append, List.nil_append, List.cons.injEq, Prod.mk.injEq, true_and,
    String.toList_inj] at h
  obtain ⟨rfl, hport, rfl, rfl, hpassword⟩ := h
  obtain rfl : port = port' := UInt16.toNat_inj.1 (Text.toString_injective hport)
  have hsame : password = password' := by
    cases password <;> cases password' <;> simp_all [String.toList_inj]
  rw [hsame]

theorem cons_toList_text (p : Parameters) :
    ' ' :: (Settings.parameters p).text.toList = spread p.pairs := by
  obtain ⟨host, port, database, user, password⟩ := p
  cases password <;> simp [Settings.text, Settings.parametersText, pairs, spread]

theorem forall_mem_pairs_iff {P : Pair → Prop} (p : Parameters) :
    (∀ pair ∈ p.pairs, P pair)
      ↔ P ("host".toList, p.host.toList) ∧ P ("port".toList, (toString p.port.toNat).toList)
        ∧ P ("dbname".toList, p.database.toList) ∧ P ("user".toList, p.user.toList)
        ∧ ∀ password ∈ p.password, P ("password".toList, password.toList) := by
  rw [pairs, List.forall_mem_append]
  cases p.password <;> simp [and_assoc]

theorem isName_of_mem_pairs (p : Parameters) : ∀ pair ∈ p.pairs, IsName pair.1 := by
  have hwords : IsName "host".toList ∧ IsName "port".toList ∧ IsName "dbname".toList
      ∧ IsName "user".toList ∧ IsName "password".toList := by
    refine ⟨?_, ?_, ?_, ?_, ?_⟩ <;> exact ⟨by decide, List.all_eq_true.1 (by decide)⟩
  obtain ⟨hhost, hport, hdbname, huser, hpassword⟩ := hwords
  exact (forall_mem_pairs_iff p).2 ⟨hhost, hport, hdbname, huser, fun _ _ => hpassword⟩

/-- The number of the port is always read as it stands. -/
theorem isBare_iff_forall_mem_pairs (p : Parameters) :
    p.IsBare escapes ↔ ∀ pair ∈ p.pairs, PairText.IsBare escapes pair.2 := by
  rw [forall_mem_pairs_iff]
  constructor
  · intro h
    exact ⟨h.host, isBare_toString escapes _, h.database, h.user, h.password⟩
  · rintro ⟨hhost, -, hdatabase, huser, hpassword⟩
    exact ⟨hhost, hdatabase, huser, hpassword⟩

/-- Settings are read back from their text just where every value is read as it stands. -/
theorem readPairs_toList_text_iff (p : Parameters) :
    readPairs escapes (Settings.parameters p).text.toList = some p.pairs ↔ p.IsBare escapes := by
  rw [← readPairs_cons_of_isBlank (c := ' ') (by decide), cons_toList_text,
    readPairs_spread_iff p.isName_of_mem_pairs, isBare_iff_forall_mem_pairs]

/-- Settings are read back from their text, each of them and no other, just where every value is
read as it stands: it is not empty, has no white space, does not start with a quote, and has no
backslash if the client takes one for an escape. Settings of that kind have texts of their own. -/
theorem readPairs_text (escapes : Bool) :
    (∀ p : Parameters,
      readPairs escapes (Settings.parameters p).text.toList = some p.pairs ↔ p.IsBare escapes)
    ∧ ∀ p q : Parameters, p.IsBare escapes → q.IsBare escapes →
      (Settings.parameters p).text = (Settings.parameters q).text → p = q := by
  refine ⟨readPairs_toList_text_iff, fun p q hp hq htext => pairs_injective (Option.some.inj ?_)⟩
  rw [← (readPairs_toList_text_iff p).2 hp, ← (readPairs_toList_text_iff q).2 hq, htext]

/-- Settings with a sign of equality, a quote and a colon inside their values. -/
def plainSettings : Parameters where
  host := "::1"
  port := 5433
  database := "test=db"
  user := "o'neil"
  password := some "=s3cr'et"

theorem isBare_plainSettings : plainSettings.IsBare true where
  host := by decide
  database := by decide
  user := by decide
  password := by
    rintro password ⟨⟩
    decide

theorem readPairs_text_plainSettings :
    plainSettings.IsBare true
    ∧ readPairs true "host=::1 port=5433 dbname=test=db user=o'neil password==s3cr'et".toList
      = some plainSettings.pairs :=
  ⟨isBare_plainSettings, ((readPairs_text true).1 plainSettings).2 isBare_plainSettings⟩

/-- A password with a blank is not read back, and what looks like a pair in the name of a user is
taken for one, so that different settings have one text. -/
theorem readPairs_text_blank :
    readPairs false (Settings.parameters
        { database := "app", user := "app", password := some "a b" }).text.toList
      ≠ some { database := "app", user := "app", password := some "a b" : Parameters }.pairs
    ∧ { database := "app", user := "app password=x" : Parameters }
      ≠ { database := "app", user := "app", password := some "x" }
    ∧ (Settings.parameters { database := "app", user := "app password=x" }).text
      = (Settings.parameters { database := "app", user := "app", password := some "x" }).text := by
  refine ⟨?_, by decide, by decide⟩
  rw [Ne, readPairs_toList_text_iff]
  intro hbare
  exact absurd (hbare.password "a b" rfl) (by decide)

end Parameters

end RowBindings.Connection
