import RowBindings.Proofs.Statement.Lexing

/-!
# Statements read back

The part of the grammar of the query language that covers insertions and selections by equality,
as readers over tokens. A reader takes a whole statement and nothing else, so that what it gives is
all that the database sees. Printing a statement and reading the text gives the statement again,
with whatever names it holds: no name ends early, adds a parameter or passes for a clause.
-/

namespace RowBindings.Statement

/-! ## The grammar -/

/-- The words that are no names when they stand bare: the reserved ones, and those that may name
only functions and types. -/
def keptWords : List String := [
  "all", "analyse", "analyze", "and", "any", "array", "as", "asc", "asymmetric", "both", "case",
  "cast", "check", "collate", "column", "constraint", "create", "current_catalog", "current_date",
  "current_role", "current_time", "current_timestamp", "current_user", "default", "deferrable",
  "desc", "distinct", "do", "else", "end", "except", "false", "fetch", "for", "foreign", "from",
  "grant", "group", "having", "in", "initially", "intersect", "into", "lateral", "leading", "limit",
  "localtime", "localtimestamp", "not", "null", "offset", "on", "only", "or", "order", "placing",
  "primary", "references", "returning", "select", "session_user", "some", "symmetric",
  "system_user", "table", "then", "to", "trailing", "true", "union", "unique", "user", "using",
  "variadic", "when", "where", "window", "with",
  "authorization", "binary", "collation", "concurrently", "cross", "current_schema", "freeze",
  "full", "ilike", "inner", "is", "isnull", "join", "left", "like", "natural", "notnull", "outer",
  "overlaps", "right", "similar", "tablesample", "verbose"]

/-- The name that a token stands for. -/
def nameOf? : Token → Option String
  | .word text =>
    if keptWords.contains (String.ofList text) then none else some (String.ofList text)
  | .quoted text => some (String.ofList text)
  | _ => none

/-- What a token in a list of values puts into its column. -/
def cellOf? (t : Token) : Option Cell :=
  match t with
  | .parameter k => some (.parameter k)
  | t => if t = keyword "DEFAULT" then some .default else none

/-- What follows the tokens expected, if they stand first. -/
def expect? (expected ts : List Token) : Option (List Token) :=
  if expected.isPrefixOf ts then some (ts.drop expected.length) else none

/-- Items with commas between them, at least one, and what follows. -/
def readItems? {α : Type} (item? : Token → Option α) : List Token → Option (List α × List Token)
  | t :: .mark ',' :: after => do
    let x ← item? t
    let (xs, after) ← readItems? item? after
    return (x :: xs, after)
  | t :: after => (item? t).map fun x => ([x], after)
  | [] => none

/-- The columns named, and what goes into each. -/
def readCells? (ts : List Token) : Option (List (String × Cell) × List Token) := do
  let after ← expect? [.mark '('] ts
  let (names, after) ← readItems? nameOf? after
  let after ← expect? [.mark ')', keyword "VALUES", .mark '('] after
  let (cells, after) ← readItems? cellOf? after
  let after ← expect? [.mark ')'] after
  if names.length = cells.length then some (names.zip cells, after) else none

/-- What is inserted: nothing but defaults, or a value for each column named. -/
def readValues? (ts : List Token) : Option (List (String × Cell) × List Token) :=
  match expect? [keyword "DEFAULT", keyword "VALUES"] ts with
  | some after => some ([], after)
  | none => readCells? ts

/-- What is done about a row that is there already. -/
def readOnConflict (ts : List Token) : OnConflict × List Token :=
  match expect? [keyword "ON", keyword "CONFLICT", keyword "DO", keyword "NOTHING"] ts with
  | some after => (.doNothing, after)
  | none => (.fail, ts)

/-- The columns that are given back. -/
def readReturning? (ts : List Token) : Option (List String × List Token) :=
  match expect? [keyword "RETURNING"] ts with
  | some after => readItems? nameOf? after
  | none => some ([], ts)

/-- An insertion, with nothing after it. -/
def readInsert? (ts : List Token) : Option (Insert × OnConflict) := do
  let after ← expect? [keyword "INSERT", keyword "INTO"] ts
  let table ← after.head?.bind nameOf?
  let (cells, after) ← readValues? after.tail
  let (onConflict, after) := readOnConflict after
  let (returning, after) ← readReturning? after
  if after.isEmpty then some ({ table, cells, returning }, onConflict) else none

/-- Columns compared with parameters, up to the end. -/
def readConditions? : List Token → Option (List (String × Nat))
  | t :: .mark '=' :: .parameter k :: after => do
    let name ← nameOf? t
    match after with
    | [] => return [(name, k)]
    | u :: after =>
      if u = keyword "AND" then return (name, k) :: (← readConditions? after) else none
  | _ => none

/-- A selection, with nothing after it. -/
def readSelect? (ts : List Token) : Option Select := do
  let after ← expect? [keyword "SELECT"] ts
  let (columns, after) ← readItems? nameOf? after
  let after ← expect? [keyword "FROM"] after
  let table ← after.head?.bind nameOf?
  let after ← expect? [keyword "WHERE"] after.tail
  let conditions ← readConditions? after
  return { columns, table, conditions }

/-- The insertion that a text is. -/
def Insert.ofText? (text : String) : Option (Insert × OnConflict) :=
  (tokens? text.toList).bind readInsert?

/-- The selection that a text is. -/
def Select.ofText? (text : String) : Option Select :=
  (tokens? text.toList).bind readSelect?

/-- The numbers of the parameters among tokens, in order. -/
def parameterNumbers (ts : List Token) : List Nat :=
  ts.filterMap fun
    | .parameter k => some k
    | _ => none

/-! ## Tokens of the printed statements -/

/-- The tokens of a cell. -/
def Cell.token : Cell → Token
  | .parameter k => .parameter k
  | .default => keyword "DEFAULT"

/-- Items with commas between them. -/
def itemTokens (items : List Token) : List Token :=
  [Token.mark ','].intercalate (items.map fun t => [t])

/-- The tokens of names in a list. -/
def namesTokens (names : List String) : List Token :=
  itemTokens (names.map fun name => nameToken name.toList)

/-- The tokens of the clause that says what is inserted. -/
def Insert.valuesTokens (s : Insert) : List Token :=
  match s.cells with
  | [] => [keyword "DEFAULT", keyword "VALUES"]
  | cells =>
    .mark '(' :: namesTokens (cells.map (·.1))
      ++ [.mark ')', keyword "VALUES", .mark '('] ++ itemTokens (cells.map (·.2.token))
      ++ [.mark ')']

/-- The tokens of the clause that says what is done about a row that is there already. -/
def OnConflict.tokens : OnConflict → List Token
  | .fail => []
  | .doNothing => [keyword "ON", keyword "CONFLICT", keyword "DO", keyword "NOTHING"]

/-- The tokens of the clause that says what is given back. -/
def Insert.returningTokens (s : Insert) : List Token :=
  match s.returning with
  | [] => []
  | names => keyword "RETURNING" :: namesTokens names

/-- The tokens of an insertion. -/
def Insert.tokens (s : Insert) (onConflict : OnConflict) : List Token :=
  [keyword "INSERT", keyword "INTO", nameToken s.table.toList] ++ s.valuesTokens
    ++ onConflict.tokens ++ s.returningTokens

/-- The tokens of a condition. -/
def conditionTokens (condition : String × Nat) : List Token :=
  [nameToken condition.1.toList, .mark '=', .parameter condition.2]

/-- The tokens of a selection. -/
def Select.tokens (s : Select) : List Token :=
  keyword "SELECT" :: namesTokens s.columns ++ [keyword "FROM", nameToken s.table.toList,
    keyword "WHERE"] ++ [keyword "AND"].intercalate (s.conditions.map conditionTokens)

theorem intercalate_nil_map {α β : Type} (f : α → β) (xs : List α) :
    ([] : List β).intercalate (xs.map fun x => [f x]) = xs.map f := by
  induction xs with
  | nil => rfl
  | cons x xs ih =>
    cases xs with
    | nil => rfl
    | cons y ys =>
      simp only [List.map_cons, List.intercalate_cons_cons] at ih ⊢
      rw [ih]
      rfl

/-! The printed statements once as lists of characters: to unfold a definition that holds long
literals is slow, so it is done here only. -/

theorem onConflictText_doNothing :
    OnConflict.doNothing.text = " ON CONFLICT DO NOTHING".toList := rfl

theorem insertText_toList (s : Insert) (onConflict : OnConflict) :
    (s.text onConflict).toList = "INSERT INTO ".toList ++ nameText s.table.toList ++ s.valuesText
      ++ onConflict.text ++ s.returningText :=
  String.toList_ofList

theorem selectText_toList (s : Select) :
    s.text.toList = "SELECT ".toList ++ namesText s.columns ++ " FROM ".toList
      ++ nameText s.table.toList ++ " WHERE ".toList
      ++ Text.joinWith " AND ".toList (s.conditions.map conditionText) :=
  String.toList_ofList

section Printed

variable {rest : List Char} {ts : List Token}

theorem tokens?_commaSeparated {α : Type} {text : α → List Char} {token : α → Token} {xs : List α}
    (htext : ∀ x ∈ xs, ∀ after us, Apart after → tokens? after = some us →
      tokens? (text x ++ after) = some (token x :: us))
    (hrest : Apart rest) (hts : tokens? rest = some ts) :
    tokens? (commaSeparated (xs.map text) ++ rest) = some (itemTokens (xs.map token) ++ ts) := by
  have hbetween : ∀ after us, tokens? after = some us →
      tokens? ([',', ' '] ++ after) = some ([.mark ','] ++ us) := by
    intro after us hus
    exact tokens?_mark (by decide) ((tokens?_blank after).trans hus)
  have h := tokens?_joinWith text (fun x => [token x])
    (fun after => apart_of_mem (by decide)) hbetween htext hrest hts
  rw [commaSeparated, itemTokens, List.map_map]
  exact h

theorem tokens?_namesText (names : List String) (hrest : Apart rest)
    (hts : tokens? rest = some ts) :
    tokens? (namesText names ++ rest) = some (namesTokens names ++ ts) :=
  tokens?_commaSeparated (fun name _ _ _ hafter hus => tokens?_name name hafter hus) hrest hts

theorem tokens?_cellText (cell : Cell) (hrest : Apart rest) (hts : tokens? rest = some ts) :
    tokens? (cell.text ++ rest) = some (cell.token :: ts) := by
  cases cell with
  | parameter k => exact tokens?_parameter k hrest hts
  | default => exact tokens?_keyword "DEFAULT" (by decide) hrest hts

/-- A phrase of the language: words with blanks between them. -/
theorem tokens?_phrase (words : List String) (hwords : ∀ w ∈ words, isWord w.toList)
    (hrest : Apart rest) (hts : tokens? rest = some ts) :
    tokens? (Text.joinWith [' '] (words.map String.toList) ++ rest)
      = some (words.map keyword ++ ts) := by
  have hbetween : ∀ after us, tokens? after = some us →
      tokens? ([' '] ++ after) = some ([] ++ us) := by
    intro after us hus
    exact (tokens?_blank after).trans hus
  have h := tokens?_joinWith String.toList (fun w => [keyword w])
    (fun after => apart_of_mem (by decide)) hbetween
    (fun w hw after us hafter hus => tokens?_keyword w (hwords w hw) hafter hus) hrest hts
  rwa [intercalate_nil_map] at h

theorem tokens?_valuesText (s : Insert) (hrest : Apart rest) (hts : tokens? rest = some ts) :
    tokens? (s.valuesText ++ rest) = some (s.valuesTokens ++ ts) := by
  rw [Insert.valuesText, Insert.valuesTokens]
  cases hcells : s.cells with
  | nil =>
    exact (tokens?_blank _).trans (tokens?_phrase ["DEFAULT", "VALUES"] (by decide) hrest hts)
  | cons cell cells =>
    have hvalues : tokens? (commaSeparated ((cell :: cells).map (·.2.text)) ++ ')' :: rest) = _ :=
      tokens?_commaSeparated (fun cell _ _ _ => tokens?_cellText cell.2)
        (apart_of_mem (by decide)) (tokens?_mark (by decide) hts)
    have hbetween := tokens?_mark (c := ')') (by decide) ((tokens?_blank _).trans
      (tokens?_keyword "VALUES" (by decide) (apart_of_mem (by decide)) ((tokens?_blank _).trans
        (tokens?_mark (c := '(') (by decide) hvalues))))
    have hnames := tokens?_namesText ((cell :: cells).map (·.1)) (apart_of_mem (by decide)) hbetween
    have h := (tokens?_blank _).trans (tokens?_mark (c := '(') (by decide) hnames)
    simp only [String.reduceToList, List.append_assoc, List.cons_append, List.nil_append] at h ⊢
    exact h

theorem tokens?_onConflictText (onConflict : OnConflict) (hrest : Apart rest)
    (hts : tokens? rest = some ts) :
    tokens? (onConflict.text ++ rest) = some (onConflict.tokens ++ ts) := by
  cases onConflict with
  | fail => exact hts
  | doNothing =>
    exact (tokens?_blank _).trans
      (tokens?_phrase ["ON", "CONFLICT", "DO", "NOTHING"] (by decide) hrest hts)

theorem tokens?_returningText (s : Insert) : tokens? s.returningText = some s.returningTokens := by
  rw [Insert.returningText, Insert.returningTokens]
  cases s.returning with
  | nil => exact tokens?_nil
  | cons name names =>
    have hnames := tokens?_namesText (name :: names) apart_nil tokens?_nil
    rw [List.append_nil, List.append_nil] at hnames
    have h := (tokens?_blank _).trans (tokens?_keyword "RETURNING" (by decide)
      (apart_of_mem (by decide)) ((tokens?_blank _).trans hnames))
    simp only [String.reduceToList, List.cons_append, List.nil_append] at h ⊢
    exact h

end Printed

theorem apart_returningText (s : Insert) : Apart s.returningText := by
  rw [Insert.returningText]
  split
  · exact apart_nil
  · simp only [String.reduceToList, List.cons_append]
    exact apart_of_mem (by decide)

theorem apart_onConflictText (onConflict : OnConflict) {rest : List Char} (hrest : Apart rest) :
    Apart (onConflict.text ++ rest) := by
  cases onConflict with
  | fail => exact hrest
  | doNothing =>
    simp only [onConflictText_doNothing, String.reduceToList, List.cons_append]
    exact apart_of_mem (by decide)

theorem apart_valuesText (s : Insert) (rest : List Char) : Apart (s.valuesText ++ rest) := by
  rw [Insert.valuesText]
  split
  · simp only [String.reduceToList, List.cons_append]
    exact apart_of_mem (by decide)
  · simp only [String.reduceToList, List.cons_append]
    exact apart_of_mem (by decide)

/-- The tokens of an insertion are those meant by its parts, whatever the names in it are. -/
theorem tokens?_insertText (s : Insert) (onConflict : OnConflict) :
    tokens? (s.text onConflict).toList = some (s.tokens onConflict) := by
  -- from the end, since a token is known to end only by what follows it
  have hend := apart_returningText s
  have hconflict := tokens?_onConflictText onConflict hend (tokens?_returningText s)
  have hvalues := tokens?_valuesText s (apart_onConflictText onConflict hend) hconflict
  have htable := tokens?_name s.table (apart_valuesText s _) hvalues
  have hinto := tokens?_keyword "INTO" (by decide) (apart_of_mem (by decide))
    ((tokens?_blank _).trans htable)
  have h := tokens?_keyword "INSERT" (by decide) (apart_of_mem (by decide))
    ((tokens?_blank _).trans hinto)
  simp only [insertText_toList, Insert.tokens, String.reduceToList, List.append_assoc,
    List.cons_append, List.nil_append] at h ⊢
  exact h

theorem tokens?_conditionText (condition : String × Nat) {rest : List Char} {ts : List Token}
    (hrest : Apart rest) (hts : tokens? rest = some ts) :
    tokens? (conditionText condition ++ rest) = some (conditionTokens condition ++ ts) := by
  have hequals := tokens?_mark (c := '=') (by decide)
    ((tokens?_blank _).trans (tokens?_parameter condition.2 hrest hts))
  have h := tokens?_name condition.1 (apart_of_mem (by decide)) ((tokens?_blank _).trans hequals)
  simp only [conditionText, String.reduceToList, List.append_assoc, List.cons_append,
    List.nil_append]
  exact h

/-- The tokens of a selection are those meant by its parts, whatever the names in it are. -/
theorem tokens?_selectText (s : Select) : tokens? s.text.toList = some s.tokens := by
  have hbetween : ∀ after us, tokens? after = some us →
      tokens? (" AND ".toList ++ after) = some ([keyword "AND"] ++ us) := by
    intro after us hus
    have h := (tokens?_blank _).trans (tokens?_keyword "AND" (by decide)
      (apart_of_mem (by decide)) ((tokens?_blank after).trans hus))
    simp only [String.reduceToList, List.cons_append, List.nil_append] at h ⊢
    exact h
  have hconditions := tokens?_joinWith conditionText conditionTokens
    (fun after => by
      simp only [String.reduceToList, List.cons_append]
      exact apart_of_mem (by decide))
    hbetween
    (fun condition (_ : condition ∈ s.conditions) _ _ => tokens?_conditionText condition)
    apart_nil tokens?_nil
  have hwhere := tokens?_keyword "WHERE" (by decide) (apart_of_mem (by decide))
    ((tokens?_blank _).trans hconditions)
  have htable := tokens?_name s.table (apart_of_mem (by decide)) ((tokens?_blank _).trans hwhere)
  have hfrom := tokens?_keyword "FROM" (by decide) (apart_of_mem (by decide))
    ((tokens?_blank _).trans htable)
  have hcolumns := tokens?_namesText s.columns (apart_of_mem (by decide))
    ((tokens?_blank _).trans hfrom)
  have h := tokens?_keyword "SELECT" (by decide) (apart_of_mem (by decide))
    ((tokens?_blank _).trans hcolumns)
  simp only [selectText_toList, Select.tokens, String.reduceToList, List.append_assoc,
    List.cons_append, List.nil_append, List.append_nil] at h ⊢
  exact h

/-! ## Reading the tokens -/

@[simp]
theorem expect?_nil (rest : List Token) : expect? [] rest = some rest := rfl

@[simp]
theorem expect?_cons_self (t : Token) (expected rest : List Token) :
    expect? (t :: expected) (t :: rest) = expect? expected rest := by
  simp [expect?]

theorem expect?_cons_ne {t u : Token} (h : t ≠ u) (expected rest : List Token) :
    expect? (t :: expected) (u :: rest) = none := by
  rw [expect?, if_neg]
  intro hprefix
  exact h (List.cons_prefix_cons.1 (List.isPrefixOf_iff_prefix.1 hprefix)).1

/-- Every word that is no name when it stands bare is written between quotes. -/
theorem keptWords_subset : ∀ w ∈ keptWords, w ∈ reservedWords := by
  have hall : keptWords.all reservedWords.contains = true := by decide
  simpa only [List.all_eq_true, List.contains_iff_mem] using hall

theorem nameOf?_nameToken (name : String) : nameOf? (nameToken name.toList) = some name := by
  rw [nameToken]
  split
  · next hbare =>
    have hfree : keptWords.contains (String.ofList name.toList) = false := by
      simp only [isBare, Bool.and_eq_true, Bool.not_eq_true'] at hbare
      refine Bool.eq_false_iff.2 fun hkept => ?_
      have hreserved := keptWords_subset _ (List.contains_iff_mem.1 hkept)
      rw [← List.contains_iff_mem, hbare.2] at hreserved
      cases hreserved
    rw [nameOf?, hfree, String.ofList_toList]
    rfl
  · rw [nameOf?, String.ofList_toList]

theorem cellOf?_token (cell : Cell) : cellOf? cell.token = some cell := by
  cases cell with
  | parameter k => rfl
  | default => rfl

theorem readItems?_itemTokens {α : Type} {item? : Token → Option α} {token : α → Token}
    (hitem : ∀ x, item? (token x) = some x) {xs : List α} (hne : xs ≠ []) (rest : List Token)
    (hrest : rest.head? ≠ some (.mark ',')) :
    readItems? item? (itemTokens (xs.map token) ++ rest) = some (xs, rest) := by
  induction xs with
  | nil => exact absurd rfl hne
  | cons x xs ih =>
    cases xs with
    | nil =>
      have htokens : itemTokens ([x].map token) ++ rest = token x :: rest := rfl
      rw [htokens]
      cases rest with
      | nil => simp [readItems?, hitem]
      | cons t rest =>
        have ht : t ≠ .mark ',' := fun h => hrest (congrArg some h)
        rw [readItems?, hitem, Option.map_some]
        exact fun after h => ht (List.cons.inj h).1
    | cons y ys =>
      have htokens : itemTokens ((x :: y :: ys).map token) ++ rest
          = token x :: .mark ',' :: (itemTokens ((y :: ys).map token) ++ rest) := by
        simp [itemTokens]
      rw [htokens, readItems?, hitem, ih (List.cons_ne_nil y ys)]
      rfl

theorem readItems?_namesTokens {names : List String} (hne : names ≠ []) (rest : List Token)
    (hrest : rest.head? ≠ some (.mark ',')) :
    readItems? nameOf? (namesTokens names ++ rest) = some (names, rest) :=
  readItems?_itemTokens nameOf?_nameToken hne rest hrest

theorem readCells?_tokens {cells : List (String × Cell)} (hne : cells ≠ []) (rest : List Token) :
    readCells? (.mark '(' :: namesTokens (cells.map (·.1))
        ++ [.mark ')', keyword "VALUES", .mark '('] ++ itemTokens (cells.map (·.2.token))
        ++ [.mark ')'] ++ rest)
      = some (cells, rest) := by
  have hnames := readItems?_namesTokens (mt List.map_eq_nil_iff.1 hne : cells.map (·.1) ≠ [])
    ([.mark ')', keyword "VALUES", .mark '('] ++ (itemTokens (cells.map (·.2.token))
      ++ ([.mark ')'] ++ rest))) (by simp)
  have hvalues := readItems?_itemTokens cellOf?_token
    (mt List.map_eq_nil_iff.1 hne : cells.map (·.2) ≠ []) ([.mark ')'] ++ rest) (by simp)
  have hzip : (cells.map (·.1)).zip (cells.map (·.2)) = cells := by
    rw [← List.unzip_fst, ← List.unzip_snd, List.zip_unzip]
  simp only [List.append_assoc, List.cons_append, List.nil_append, List.map_map,
    Function.comp_def] at hnames hvalues ⊢
  simp [readCells?, hnames, hvalues, hzip]

theorem readValues?_tokens (s : Insert) (rest : List Token) :
    readValues? (s.valuesTokens ++ rest) = some (s.cells, rest) := by
  rw [readValues?, Insert.valuesTokens]
  cases s.cells with
  | nil =>
    simp
  | cons cell cells =>
    have hword := expect?_cons_ne (t := keyword "DEFAULT") (u := .mark '(') (by simp [keyword])
    simp only [List.cons_append, hword]
    exact readCells?_tokens (List.cons_ne_nil cell cells) rest

theorem readOnConflict_tokens (onConflict : OnConflict) (s : Insert) :
    readOnConflict (onConflict.tokens ++ s.returningTokens) = (onConflict, s.returningTokens) := by
  cases onConflict with
  | fail =>
    rw [OnConflict.tokens, List.nil_append, readOnConflict, Insert.returningTokens]
    cases s.returning with
    | nil => rfl
    | cons name names => rw [expect?_cons_ne (by simp [keyword])]
  | doNothing => simp [OnConflict.tokens, readOnConflict]

theorem readReturning?_tokens (s : Insert) :
    readReturning? s.returningTokens = some (s.returning, []) := by
  rw [readReturning?, Insert.returningTokens]
  cases s.returning with
  | nil => rfl
  | cons name names =>
    have h := readItems?_namesTokens (List.cons_ne_nil name names) [] (by simp)
    rw [List.append_nil] at h
    simp [h]

theorem readInsert?_tokens (s : Insert) (onConflict : OnConflict) :
    readInsert? (s.tokens onConflict) = some (s, onConflict) := by
  rw [readInsert?, Insert.tokens]
  simp [nameOf?_nameToken, readValues?_tokens, readOnConflict_tokens, readReturning?_tokens]

theorem readConditions?_tokens {conditions : List (String × Nat)} (hne : conditions ≠ []) :
    readConditions? ([keyword "AND"].intercalate (conditions.map conditionTokens))
      = some conditions := by
  induction conditions with
  | nil => exact absurd rfl hne
  | cons condition conditions ih =>
    cases conditions with
    | nil => simp [conditionTokens, readConditions?, nameOf?_nameToken]
    | cons next rest =>
      have hnext := ih (List.cons_ne_nil next rest)
      rw [List.map_cons, List.map_cons, List.intercalate_cons_cons, ← List.map_cons]
      generalize [keyword "AND"].intercalate _ = after at hnext ⊢
      simp [conditionTokens, readConditions?, nameOf?_nameToken, hnext]

theorem readSelect?_tokens {s : Select} (hcolumns : s.columns ≠ [])
    (hconditions : s.conditions ≠ []) : readSelect? s.tokens = some s := by
  have hnames := readItems?_namesTokens hcolumns ([keyword "FROM", nameToken s.table.toList,
    keyword "WHERE"] ++ [keyword "AND"].intercalate (s.conditions.map conditionTokens))
    (by simp [keyword])
  simp only [List.cons_append, List.nil_append] at hnames
  rw [readSelect?, Select.tokens]
  simp [hnames, nameOf?_nameToken, readConditions?_tokens hconditions]

/-! ## Texts read back -/

/-- An insertion read from its text is the insertion printed, and nothing besides. -/
theorem insert_ofText?_text (s : Insert) (onConflict : OnConflict) :
    Insert.ofText? (s.text onConflict) = some (s, onConflict) := by
  rw [Insert.ofText?, tokens?_insertText, Option.bind_some, readInsert?_tokens]

/-- A selection read from its text is the selection printed, and nothing besides. -/
theorem select_ofText?_text {s : Select} (hcolumns : s.columns ≠ [])
    (hconditions : s.conditions ≠ []) : Select.ofText? s.text = some s := by
  rw [Select.ofText?, tokens?_selectText, Option.bind_some, readSelect?_tokens hcolumns hconditions]

@[simp]
theorem parameterNumbers_nil : parameterNumbers [] = [] := rfl

@[simp]
theorem parameterNumbers_append (ts us : List Token) :
    parameterNumbers (ts ++ us) = parameterNumbers ts ++ parameterNumbers us :=
  List.filterMap_append

@[simp]
theorem parameterNumbers_keyword (word : String) (ts : List Token) :
    parameterNumbers (keyword word :: ts) = parameterNumbers ts := rfl

@[simp]
theorem parameterNumbers_mark (c : Char) (ts : List Token) :
    parameterNumbers (.mark c :: ts) = parameterNumbers ts := rfl

@[simp]
theorem parameterNumbers_parameter (k : Nat) (ts : List Token) :
    parameterNumbers (.parameter k :: ts) = k :: parameterNumbers ts := rfl

/-- No name adds a parameter. -/
@[simp]
theorem parameterNumbers_name (name : List Char) (ts : List Token) :
    parameterNumbers (nameToken name :: ts) = parameterNumbers ts := by
  rw [nameToken]
  split <;> rfl

theorem parameterNumbers_intercalate {sep : List Token} (hsep : parameterNumbers sep = [])
    (parts : List (List Token)) :
    parameterNumbers (sep.intercalate parts) = parts.flatMap parameterNumbers := by
  induction parts with
  | nil => rfl
  | cons part parts ih =>
    cases parts with
    | nil => simp
    | cons next rest =>
      rw [List.intercalate_cons_cons, parameterNumbers_append, parameterNumbers_append, hsep, ih,
        List.append_nil]
      rfl

theorem parameterNumbers_itemTokens (items : List Token) :
    parameterNumbers (itemTokens items) = parameterNumbers items := by
  rw [itemTokens, parameterNumbers_intercalate rfl, List.flatMap_map]
  induction items with
  | nil => rfl
  | cons t items ih =>
    rw [List.flatMap_cons, ih, ← parameterNumbers_append, List.singleton_append]

@[simp]
theorem parameterNumbers_namesTokens (names : List String) :
    parameterNumbers (namesTokens names) = [] := by
  rw [namesTokens, parameterNumbers_itemTokens]
  induction names with
  | nil => rfl
  | cons name names ih => rw [List.map_cons, parameterNumbers_name, ih]

/-- The parameters of an insertion are those of its cells. -/
theorem parameterNumbers_insertTokens (s : Insert) (onConflict : OnConflict) :
    parameterNumbers (s.tokens onConflict) = parameterNumbers (s.cells.map (·.2.token)) := by
  have hvalues : parameterNumbers s.valuesTokens = parameterNumbers (s.cells.map (·.2.token)) := by
    rw [Insert.valuesTokens]
    cases s.cells with
    | nil => rfl
    | cons cell cells => simp [parameterNumbers_itemTokens]
  have hconflict : parameterNumbers onConflict.tokens = [] := by cases onConflict <;> rfl
  have hreturning : parameterNumbers s.returningTokens = [] := by
    rw [Insert.returningTokens]
    cases s.returning with
    | nil => rfl
    | cons name names => simp
  simp [Insert.tokens, hvalues, hconflict, hreturning]

/-- The parameters of a selection are those of its conditions. -/
theorem parameterNumbers_selectTokens (s : Select) :
    parameterNumbers s.tokens = s.conditions.map (·.2) := by
  have hparts := parameterNumbers_intercalate (rfl : parameterNumbers [keyword "AND"] = [])
    (s.conditions.map conditionTokens)
  have hcondition : ∀ condition, parameterNumbers (conditionTokens condition) = [condition.2] := by
    intro condition
    simp [conditionTokens]
  simp only [List.flatMap_map, hcondition] at hparts
  simp [Select.tokens, hparts, ← List.map_eq_flatMap]

end RowBindings.Statement
