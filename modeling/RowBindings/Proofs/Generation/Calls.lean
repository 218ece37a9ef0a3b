import RowBindings.Proofs.Generation.Functions
import RowBindings.Proofs.Identifier
import RowBindings.Proofs.Statement.Insertion
import RowBindings.Proofs.Text.StringLiteral

/-!
# Calls and the statements they send

The calls in the functions generated for a table, read back from their text, against the statements
read back from theirs: each parameter has one value bound to it, rows are asked for just if the
statement gives some, and each column that comes back is stored in the field it stands for.
-/

namespace RowBindings.Generation

open Catalog TypeMap Model Model.Record Statement

/-! ## Reading a call -/

/-- What follows a text that is expected. -/
def expectText? (expected cs : List Char) : Option (List Char) :=
  if expected.isPrefixOf cs then some (cs.drop expected.length) else none

/-- What follows blanks and ends of lines. -/
def skipBlanks (cs : List Char) : List Char :=
  cs.dropWhile fun c => c == ' ' || c == '\n'

/-- The method of a name. -/
def Method.ofName? (name : List Char) : Option Method :=
  [Method.queryOne, .queryOpt, .execute].find? fun m => m.name.toList == name

/-- What is bound, up to the closing bracket, and what follows it; `path` is what has been read of
one value. -/
def readBound? : Option (List Char) → List Char → Option (List String × List Char)
  | _, [] => none
  | none, c :: rest =>
    if c = ']' then some ([], rest)
    else if c = '&' then readBound? (some []) rest
    else if c = ' ' then readBound? none rest
    else none
  | some path, c :: rest =>
    if c = ',' then
      (readBound? none rest).map fun (paths, after) => (String.ofList path.reverse :: paths, after)
    else readBound? (some (c :: path)) rest

/-- A call, and what follows the line it ends on. -/
def readCall? (cs : List Char) : Option (Call × List Char) := do
  let after ← expectText? "db.".toList cs
  let method ← Method.ofName? (after.takeWhile (· != '('))
  let after ← expectText? ['('] (after.dropWhile (· != '('))
  let (sql, after) ← Text.readLiteral? (skipBlanks after)
  let after ← expectText? [','] after
  let after ← expectText? ['&', '['] (skipBlanks after)
  let (bound, after) ← readBound? none after
  let after ← expectText? [','] after
  let after ← expectText? ")?;\n".toList (skipBlanks after)
  return ({ method, sql := String.ofList sql, bound }, after)

theorem expectText?_append (expected rest : List Char) :
    expectText? expected (expected ++ rest) = some rest := by
  rw [expectText?, if_pos, List.drop_left]
  exact List.isPrefixOf_iff_prefix.2 (List.prefix_append expected rest)

theorem readBound?_path {path : List Char} (hpath : ',' ∉ path) (before rest : List Char) :
    readBound? (some before) (path ++ ',' :: rest)
      = (readBound? none rest).map fun (paths, after) =>
        (String.ofList (before.reverse ++ path) :: paths, after) := by
  induction path generalizing before with
  | nil => rw [List.nil_append, readBound?, if_pos rfl, List.append_nil]
  | cons c path ih =>
    rw [List.mem_cons, not_or] at hpath
    rw [List.cons_append, readBound?, if_neg (Ne.symm hpath.1), ih hpath.2, List.reverse_cons,
      List.append_assoc]
    rfl

theorem pathsText_cons (path : String) (bound : List String) (rest : List Char) :
    (pathsText (path :: bound)).toList ++ rest
      = '&' :: (path.toList ++ ',' :: ' ' :: ((pathsText bound).toList ++ rest)) := by
  have hjoin : pathsText (path :: bound) = "&" ++ path ++ ", " ++ pathsText bound := by
    rw [pathsText, List.map_cons, String.join_cons, pathsText]
  rw [hjoin]
  simp only [String.toList_append, String.reduceToList, List.append_assoc, List.cons_append,
    List.nil_append]

/-- What is bound reads back, if no path has a comma in it. -/
theorem readBound?_pathsText {bound : List String} (hbound : ∀ path ∈ bound, ',' ∉ path.toList)
    (rest : List Char) :
    readBound? none ((pathsText bound).toList ++ ']' :: rest) = some (bound, rest) := by
  induction bound with
  | nil => rfl
  | cons path bound ih =>
    rw [List.forall_mem_cons] at hbound
    have hrest := ih hbound.2
    have hopen (cs : List Char) : readBound? none ('&' :: cs) = readBound? (some []) cs := rfl
    have hblank (cs : List Char) : readBound? none (' ' :: cs) = readBound? none cs := rfl
    rw [pathsText_cons, hopen, readBound?_path hbound.1, hblank, hrest, Option.map_some,
      List.reverse_nil, List.nil_append, String.ofList_toList]

theorem stringLiteral_toList (text : String) :
    (Text.stringLiteral text).toList = Text.literal text.toList :=
  String.toList_ofList

/-- A method is known by its name, which ends where the arguments start. -/
theorem ofName?_takeWhile (m : Method) (rest : List Char) :
    Method.ofName? ((m.name.toList ++ '(' :: rest).takeWhile (· != '(')) = some m := by
  cases m <;> rfl

theorem dropWhile_name (m : Method) (rest : List Char) :
    (m.name.toList ++ '(' :: rest).dropWhile (· != '(') = '(' :: rest := by
  cases m <;> rfl

theorem callText_toList (c : Call) (rest : List Char) :
    c.text.toList ++ rest
      = "db.".toList ++ (c.method.name.toList ++ '(' :: ("\n            ".toList
        ++ (Text.literal c.sql.toList ++ (",\n            ".toList ++ ("&[".toList
          ++ ((pathsText c.bound).toList ++ ']' :: (",\n        )?;\n".toList ++ rest))))))) := by
  rw [Call.text, boundText]
  simp only [String.toList_append, stringLiteral_toList, String.reduceToList, List.append_assoc,
    List.cons_append, List.nil_append]

/-- A call reads back from its text, with its statement as the literal stands for it. -/
theorem readCall?_text {c : Call} (hbound : ∀ path ∈ c.bound, ',' ∉ path.toList)
    (rest : List Char) : readCall? (c.text.toList ++ rest) = some (c, rest) := by
  -- one fact for each part of the call, in the order in which the parts are read
  have hparen (after : List Char) : expectText? ['('] ('(' :: after) = some after :=
    expectText?_append ['('] after
  have hsql (after : List Char) : Text.readLiteral?
      (skipBlanks ("\n            ".toList ++ (Text.literal c.sql.toList ++ after)))
        = some (c.sql.toList, after) := Text.readLiteral?_literal c.sql.toList after
  have hcomma (after : List Char) : expectText? [','] (',' :: after) = some after :=
    expectText?_append [','] after
  have hopening (after : List Char) : expectText? ['&', '[']
      (skipBlanks ('\n' :: ("            ".toList ++ ("&[".toList ++ after))))
        = some after := expectText?_append ['&', '['] after
  have hclosing (after : List Char) : expectText? ")?;\n".toList
      (skipBlanks ('\n' :: ("        )?;\n".toList ++ after)))
        = some after := expectText?_append ")?;\n".toList after
  have hfirst (after : List Char) : ",\n            ".toList ++ after
      = ',' :: ('\n' :: ("            ".toList ++ after)) := rfl
  have hlast (after : List Char) : ",\n        )?;\n".toList ++ after
      = ',' :: ('\n' :: ("        )?;\n".toList ++ after)) := rfl
  rw [callText_toList, readCall?, expectText?_append, Option.bind_eq_bind, Option.bind_some,
    ofName?_takeWhile, dropWhile_name, hfirst, hlast]
  simp only [Option.bind_eq_bind, Option.bind_some, hparen, hsql, hcomma, hopening, hclosing,
    readBound?_pathsText hbound, String.ofList_toList]
  rfl

/-! ## Names in calls -/

theorem comma_notMem_field (name : String) :
    ',' ∉ ("self." ++ Identifier.fieldName name).toList := by
  have hself : ',' ∉ "self.".toList := by decide
  rw [String.toList_append, List.mem_append, not_or]
  exact ⟨hself, Identifier.comma_notMem (Identifier.isIdentifierChar_of_mem_fieldName name)⟩

theorem comma_notMem_keyParamName (i : Nat) : ',' ∉ (keyParamName i).toList := by
  have hmark : ',' ∉ "pk".toList := by decide
  have hdigits : ',' ∉ (toString i).toList := by
    intro hcomma
    rw [Nat.toString_eq_repr, Nat.toList_repr] at hcomma
    exact absurd (Nat.isDigit_of_mem_toDigits (by decide) (by decide) hcomma) (by decide)
  rw [keyParamName, String.toList_append, List.mem_append, not_or]
  exact ⟨hmark, hdigits⟩

/-! ## What the calls send -/

/-- What a call that inserts a record has to do with the insertion `s`, and what has to be stored of
the row that comes back. -/
structure SendsInsertion (r : Record) (onConflict : OnConflict) (s : Insert) (c : Call)
    (stored : List (String × Nat)) : Prop where
  /-- The call reads back from its text, whatever follows it. -/
  reads : ∀ rest, readCall? (c.text.toList ++ rest) = some (c, rest)
  sql : c.sql = r.insert.text onConflict
  /-- The database sees the insertion. -/
  statement : Insert.ofText? c.sql = some (s, onConflict)
  bound : c.bound = r.insertParams.map fun f => "self." ++ f.name
  /-- The parameters are numbered from one, and each has one value bound to it. -/
  parameters : ∃ ts, tokens? c.sql.toList = some ts
    ∧ parameterNumbers ts = List.range' 1 c.bound.length
  /-- Each column has the parameter that a field for the column is bound to. -/
  placed : ∀ name k, (name, Cell.parameter k) ∈ s.cells →
    1 ≤ k ∧ ∃ f ∈ r.fields, f.column.name = name ∧ c.bound[k - 1]? = some ("self." ++ f.name)
  /-- Rows are asked for just if the insertion gives something back. -/
  method : c.method = .execute ↔ s.returning = []
  /-- Each column that comes back is stored from its position, in a field for the column. -/
  stored : ∃ fields, fields.Sublist r.fields ∧ columnNames fields = s.returning
    ∧ stored = positioned fields

/-- What the function that selects a record by its key has to do with the selection `s`. -/
structure SendsSelection (r : Record) (s : Select) (f : SelectFunction) : Prop where
  reads : ∀ rest, readCall? (f.call.text.toList ++ rest) = some (f.call, rest)
  sql : r.select?.map Select.text = some f.call.sql
  /-- The database sees the selection. -/
  statement : Select.ofText? f.call.sql = some s
  method : f.call.method = .queryOpt
  /-- The function has a parameter for each key field, of the type of the field. -/
  names : f.params.map (·.1) = (List.range r.keyFields.length).map fun i => "pk" ++ toString i
  types : f.params.map (·.2) = r.keyFields.map (·.type)
  bound : f.call.bound = f.params.map (·.1)
  parameters : ∃ ts, tokens? f.call.sql.toList = some ts
    ∧ parameterNumbers ts = List.range' 1 f.call.bound.length
  /-- The conditions are on the columns of the key fields, each with the parameter of its field. -/
  conditions : s.conditions = (columnNames r.keyFields).zipIdx 1
  /-- Each column that comes back fills the field for the column from its position. -/
  columns : s.columns = columnNames r.fields
  filled : f.filled = positioned r.fields

theorem queryUnless_eq_execute_iff {generated : Bool} {m : Method} (hm : m ≠ .execute) :
    (if generated then m else .execute) = .execute ↔ generated = false := by
  cases generated with
  | false => exact iff_of_true rfl rfl
  | true => exact iff_of_false hm Bool.noConfusion

theorem queryUnless_ne {generated : Bool} {m n : Method} (hm : m ≠ n) (hexecute : .execute ≠ n) :
    (if generated then m else .execute) ≠ n := by
  cases generated with
  | false => exact hexecute
  | true => exact hm

section OfTable

variable (rules : RuleSet) (policy : KeyPolicy) (t : Table)

theorem name_mem_fields {f : Field} (hf : f ∈ (ofTable rules policy t).fields) :
    f.name = Identifier.fieldName f.column.name := by
  obtain ⟨c, _, rfl⟩ := List.mem_map.1 hf
  rfl

theorem insertParams_subset :
    (ofTable rules policy t).insertParams ⊆ (ofTable rules policy t).fields := by
  rw [insertParams_ofTable]
  exact List.filter_sublist.subset

theorem comma_notMem_boundFields :
    ∀ path ∈ boundFields (ofTable rules policy t), ',' ∉ path.toList := by
  intro path hpath
  obtain ⟨f, hf, rfl⟩ := List.mem_map.1 hpath
  rw [name_mem_fields rules policy t (insertParams_subset rules policy t hf)]
  exact comma_notMem_field f.column.name

/-- A call that binds the fields of an insertion sends the insertion of the record, if it asks for
rows just when the key is generated. -/
theorem sendsInsertion_of_method (onConflict : OnConflict) {m : Method}
    (hmethod : m = .execute ↔ (ofTable rules policy t).key.isGenerated = false) :
    let r := ofTable rules policy t
    SendsInsertion r onConflict r.insert
      { method := m, sql := r.insert.text onConflict, bound := boundFields r }
      (positioned r.insertScan) := by
  intro r
  have hinsertion : IsInsertionOf r.insert r := isInsertionOf_insert rules policy t
  exact {
    reads := readCall?_text (comma_notMem_boundFields rules policy t)
    sql := rfl
    statement := insert_ofText?_text r.insert onConflict
    bound := rfl
    parameters := by
      refine ⟨_, tokens?_insertText r.insert onConflict, ?_⟩
      rw [parameterNumbers_insertTokens, Record.insert, parameterNumbers_insertCells, boundFields,
        List.length_map]
    placed := by
      intro name k hcell
      obtain ⟨hk, f, hget, hname⟩ := mem_numbered_iff.1 (mem_numbered_of_parameter hcell)
      have hf := insertParams_subset rules policy t (List.mem_of_getElem? hget)
      refine ⟨hk, f, hf, hname, ?_⟩
      rw [boundFields, List.getElem?_map, hget]
      rfl
    method := by
      rw [hmethod, ← Bool.not_eq_true, ← hinsertion.returning_iff, Ne, Classical.not_not]
    stored := by
      refine ⟨r.insertScan, ?_, rfl, rfl⟩
      rw [insertScan]
      split
      · rw [keyFields_eq_filter]
        exact List.filter_sublist
      · exact List.nil_sublist _ }

/-- The function generated to select a record sends the selection of the record. -/
theorem sendsSelection_of_hasKey (hkey : (ofTable rules policy t).hasKey = true) :
    let r := ofTable rules policy t
    ∃ s, r.select? = some s ∧ SendsSelection r s
      { params := r.selectParams, call := selectCall r s, filled := positioned r.selectScan } := by
  intro r
  have hs := select?_of_hasKey hkey
  obtain ⟨hcolumns, hconditions⟩ := select_ne_nil ((keyFields_ne_nil_iff rules policy t).2 hkey) hs
  refine ⟨_, hs, ?_⟩
  exact {
    reads := by
      refine readCall?_text fun path hpath => ?_
      rw [selectCall, selectParams_map_fst] at hpath
      obtain ⟨i, _, rfl⟩ := List.mem_map.1 hpath
      exact comma_notMem_keyParamName i
    sql := by rw [hs]; rfl
    statement := select_ofText?_text hcolumns hconditions
    method := rfl
    names := selectParams_map_fst r
    types := selectParams_map_snd r
    bound := rfl
    parameters := by
      refine ⟨_, tokens?_selectText _, ?_⟩
      rw [parameterNumbers_selectTokens, numbered_map_snd, selectCall, selectParams_map_fst,
        List.length_map, List.length_range]
    conditions := rfl
    columns := rfl
    filled := rfl }

/-- The functions that the standard template writes for a table agree with the statements they send:
both insertions with what is bound to them and what is stored of their rows, and, just if there is a
key, the selection with what is bound to it and what its rows fill. -/
theorem renderRecord_sends (deprecated : Bool) :
    ∃ (fs : Functions) (s : Insert),
      (Renderer.standard {} Formatter.passthrough).renderRecord methodsTemplate
        (ofTable rules policy t) deprecated = .ok fs.text
      ∧ fs.name = (ofTable rules policy t).name ∧ fs.deprecated = deprecated
      ∧ SendsInsertion (ofTable rules policy t) .fail s fs.create fs.created
      ∧ fs.create.method ≠ .queryOpt
      ∧ SendsInsertion (ofTable rules policy t) .doNothing s fs.createUnlessConflict
          fs.createdUnlessConflict
      ∧ fs.createUnlessConflict.method ≠ .queryOne
      ∧ fs.select.isSome = (ofTable rules policy t).hasKey
      ∧ ∀ f, fs.select = some f → ∃ s, SendsSelection (ofTable rules policy t) s f := by
  let r := ofTable rules policy t
  have hcreate : (createCall r).method = .execute ↔ r.key.isGenerated = false :=
    queryUnless_eq_execute_iff (by decide)
  have hunlessConflict :
      (createUnlessConflictCall r).method = .execute ↔ r.key.isGenerated = false :=
    queryUnless_eq_execute_iff (by decide)
  refine ⟨functionsOf r deprecated, r.insert, renderRecord_methods r deprecated, rfl, rfl,
    sendsInsertion_of_method rules policy t .fail hcreate,
    queryUnless_ne (by decide) (by decide),
    sendsInsertion_of_method rules policy t .doNothing hunlessConflict,
    queryUnless_ne (by decide) (by decide), ?_, ?_⟩
  · rw [functionsOf, Option.isSome_map]
    cases hkey : r.hasKey with
    | false => rw [select?, hkey]; rfl
    | true => rw [select?_of_hasKey hkey]; rfl
  · intro f hf
    cases hkey : r.hasKey with
    | false =>
      rw [functionsOf, select?, hkey] at hf
      cases hf
    | true =>
      obtain ⟨s, hs, hsends⟩ := sendsSelection_of_hasKey rules policy t hkey
      rw [functionsOf, hs] at hf
      cases hf
      exact ⟨s, hsends⟩

end OfTable

end RowBindings.Generation
