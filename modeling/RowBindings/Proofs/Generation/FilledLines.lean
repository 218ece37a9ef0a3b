import RowBindings.Proofs.Catalog.TypeText
import RowBindings.Proofs.Generation.Pieces
import RowBindings.Proofs.Identifier
import RowBindings.Proofs.Text.StringLiteral

/-!
# What can become code

Names of the database are written as they are in comments only. In lines of code they stand as
string literals or are converted to identifiers, so that a line of code is one that the templates
hold, filled in with identifiers, types, positions and literals. A name adds code of its own just
where a line break in it ends the comment that it stands in.
-/

namespace RowBindings

namespace Model

/-- The identifiers that are made from names of the database. -/
inductive IsConverted : String → Prop
  | type (name : String) : IsConverted (Identifier.typeName name)
  | field (name : String) : IsConverted (Identifier.fieldName name)
  /-- A name that is taken gets a number. -/
  | numbered (name : String) (k : Nat) : IsConverted (candidate (Identifier.typeName name) k)
  | nullable (name : String) : IsConverted (nullableName (Identifier.typeName name))

namespace IsConverted

/-- Whatever the name is made from, it has the characters of an identifier. -/
theorem isIdentifierChar_of_mem {name : String} (h : IsConverted name) :
    ∀ c ∈ name.toList, Identifier.isIdentifierChar c = true := by
  cases h with
  | type name => exact Identifier.isIdentifierChar_of_mem_typeName name
  | field name => exact Identifier.isIdentifierChar_of_mem_fieldName name
  | numbered name k =>
    rw [candidate]
    split
    · exact Identifier.isIdentifierChar_of_mem_typeName name
    · intro c hc
      rw [String.toList_append, List.mem_append] at hc
      rcases hc with hc | hc
      · exact Identifier.isIdentifierChar_of_mem_typeName name c hc
      · rw [Nat.toString_eq_repr, Nat.toList_repr] at hc
        have hdigit := Nat.isDigit_of_mem_toDigits (by decide) (by decide) hc
        rw [Identifier.isIdentifierChar, Identifier.isPlain, Char.isAlphanum, hdigit, Bool.or_true,
          Bool.true_or, Bool.true_or]
  | nullable name =>
    intro c hc
    rw [nullableName, String.toList_append, List.mem_append] at hc
    rcases hc with hc | hc
    · have hmark : "Null".toList.all Identifier.isIdentifierChar = true := by decide
      exact List.all_eq_true.1 hmark c hc
    · exact Identifier.isIdentifierChar_of_mem_typeName name c hc

theorem isOneLine {name : String} (h : IsConverted name) : Text.IsOneLine name :=
  Identifier.notMem_of_isIdentifierChar h.isIdentifierChar_of_mem (by decide)

theorem freshName (used : List String) (label : String) :
    IsConverted (freshName used (Identifier.typeName label)) := by
  rw [Model.freshName]
  cases hfind : ((List.range' 1 (used.length + 1)).map
      (candidate (Identifier.typeName label))).find? fun name => !used.contains name with
  | none => exact .type label
  | some name =>
    obtain ⟨k, -, rfl⟩ := List.mem_map.1 (List.mem_of_find?_eq_some hfind)
    exact .numbered label k

theorem of_mem_variantNames {used labels : List String} {name : String}
    (h : name ∈ variantNames used labels) : IsConverted name := by
  induction labels generalizing used with
  | nil => cases h
  | cons label labels ih =>
    rcases List.mem_cons.1 h with rfl | h
    · exact .freshName used label
    · exact ih h

/-- The variants of an enumeration. -/
theorem variant {e : Catalog.Enumeration} {v : Variant}
    (hv : v ∈ (EnumModel.ofEnumeration e).values) : IsConverted v.variant := by
  obtain ⟨⟨label, name⟩, hmem, rfl⟩ := List.mem_map.1 hv
  exact .of_mem_variantNames (List.of_mem_zip hmem).2

end IsConverted

end Model

namespace Generation

open Catalog Model Model.Record Template

/-! ## Lines of code -/

/-- The lines that the templates and the header hold as they are. -/
def fixedLines : List String := [
  "", "use postgres::GenericClient;", "use postgres_types::\x7bFromSql, ToSql\x7d;",
  "#[deprecated]", "    #[deprecated]",
  "#[derive(Debug, Clone, Copy, PartialEq, Eq, Hash, ToSql, FromSql)]",
  "#[derive(Debug, Clone, PartialEq)]", "\x7d", "    \x7d", "        \x7d", "            \x7d",
  "    pub const fn as_str(&self) -> &'static str \x7b", "        match *self \x7b",
  "    pub fn create<C: GenericClient>(&mut self, db: &mut C) -> Result<(), postgres::Error> \x7b",
  "        let row = db.query_one(", "        db.execute(", "        )?;", "        Ok(())",
  "    pub fn create_on_conflict_do_nothing<C: GenericClient>(", "        &mut self,",
  "        db: &mut C,", "    ) -> Result<bool, postgres::Error> \x7b",
  "        let row = db.query_opt(", "        match row \x7b", "            Some(row) => \x7b",
  "                Ok(true)", "            None => Ok(false),",
  "        let affected = db.execute(", "        Ok(affected > 0)",
  "    pub fn get_by_pk<C: GenericClient>(", "    ) -> Result<Option<Self>, postgres::Error> \x7b",
  "        Ok(row.map(|row| Self \x7b", "        \x7d))"]

/-- A line of code that is filled in with converted names, types and literals only. -/
def CodeLine.IsFilled (IsType : String → Prop) : CodeLine → Prop
  | .fixed text => text ∈ fixedLines
  | .databaseName _ _ | .statement _ | .boundKeys _ => True
  | .enumHead name | .variant name | .implHead name | .label name _ | .recordHead name
  | .stored _ name _ | .filled name _ => IsConverted name
  | .nullable synonym name => IsConverted synonym ∧ IsConverted name
  | .field name type => IsConverted name ∧ IsType type
  | .boundFields fields => ∀ name ∈ fields, IsConverted name
  | .keyParams types => ∀ type ∈ types, IsType type

section Lines

open Text

theorem notMem_indentation {c : Char} (hc : c ≠ ' ') (depth : Nat) :
    c ∉ (indentation depth).toList := by
  rw [indentation_toList]
  exact fun h => hc (List.eq_of_mem_replicate h)

/-- Code stays code when it is indented. -/
theorem isCodeLine_indented {text : String} (h : IsCodeLine text) (depth : Nat) :
    IsCodeLine (indentation depth ++ text) :=
  h.after (notMem_indentation (by decide) depth) (notMem_indentation (by decide) depth)

/-- So does code that follows a converted name. -/
theorem isCodeLine_converted {name text : String} (hname : IsConverted name)
    (h : IsCodeLine text) : IsCodeLine (name ++ text) :=
  h.after hname.isOneLine
    (Identifier.notMem_of_isIdentifierChar hname.isIdentifierChar_of_mem (by decide))

/-- What fills in a line of code between two texts of its template. -/
theorem isCodeLine_filledIn {before text after : String} (hbefore : IsCodeLine before)
    (htext : IsOneLine text) (hafter : IsOneLine after) : IsCodeLine (before ++ text ++ after) :=
  (hbefore.append htext).append hafter

/-- Code between blanks and a comma. -/
theorem isCodeLine_listed {blanks text : String} (h : IsCodeLine text) (hblanks : IsOneLine blanks)
    (hslash : '/' ∉ blanks.toList) : IsCodeLine (blanks ++ text ++ ",") :=
  (h.after hblanks hslash).append (by decide)

theorem isCodeLine_stringLiteral (text : String) : IsCodeLine (stringLiteral text) where
  isOneLine := isOneLine_stringLiteral text
  startsCode := by
    rw [stringLiteral, String.toList_ofList]
    rfl

theorem isCodeLine_boundText {paths : List String} (h : ∀ path ∈ paths, IsOneLine path) :
    IsCodeLine (boundText paths) := by
  have hpaths : IsOneLine (pathsText paths) := by
    refine isOneLine_join fun text htext => ?_
    obtain ⟨path, hpath, rfl⟩ := List.mem_map.1 htext
    exact ((by decide : IsOneLine "&").append (h path hpath)).append (by decide)
  exact isCodeLine_filledIn (by decide) hpaths (by decide)

theorem isOneLine_keyParamName (i : Nat) : IsOneLine (keyParamName i) :=
  (by decide : IsOneLine "pk").append (isOneLine_toString i)

theorem isOneLine_signatureText {params : List (String × String)}
    (h : ∀ param ∈ params, IsOneLine param.1 ∧ IsOneLine param.2) :
    IsOneLine (signatureText params) := by
  rw [IsOneLine, signatureText, String.toList_ofList]
  intro hbreak
  rcases mem_joinWith hbreak with hbreak | ⟨text, htext, hbreak⟩
  · exact absurd hbreak (by decide)
  · obtain ⟨param, hparam, rfl⟩ := List.mem_map.1 htext
    obtain ⟨hname, htype⟩ := h param hparam
    rcases List.mem_append.1 hbreak with hbreak | hbreak
    · exact hname hbreak
    · exact htype (List.mem_of_ne_of_mem (by decide) (List.mem_of_ne_of_mem (by decide) hbreak))

/-- Parameters begin with the name of the first one. -/
theorem startsCode_signatureText {name type : String} (params : List (String × String))
    (hname : startsCode name.toList = true) :
    startsCode (signatureText ((name, type) :: params)).toList = true := by
  rw [signatureText, String.toList_ofList]
  cases params with
  | nil => exact startsCode_append hname _
  | cons param params =>
    rw [List.map_cons, List.map_cons, joinWith, List.append_assoc, List.append_assoc]
    · exact startsCode_append hname _
    · exact List.cons_ne_nil _ _

theorem isCodeLine_keyParams {types : List String} (h : ∀ type ∈ types, IsOneLine type) :
    IsCodeLine (CodeLine.keyParams types).text := by
  have hparams : IsOneLine
      (signatureText (((List.range types.length).map keyParamName).zip types)) := by
    refine isOneLine_signatureText fun param hparam => ?_
    obtain ⟨hname, htype⟩ := List.of_mem_zip hparam
    obtain ⟨i, -, hi⟩ := List.mem_map.1 hname
    exact ⟨hi ▸ isOneLine_keyParamName i, h _ htype⟩
  rw [CodeLine.text_keyParams]
  cases types with
  | nil => decide
  | cons type types =>
    have hname : startsCode (keyParamName 0).toList = true := by decide
    rw [List.length_cons, List.range_succ_eq_map, List.map_cons, List.zip_cons_cons] at hparams ⊢
    exact isCodeLine_listed ⟨hparams, startsCode_signatureText _ hname⟩ (by decide) (by decide)

theorem isCodeLine_fixed {text : String} (h : text ∈ fixedLines) (hne : text ≠ "") :
    IsCodeLine text := by
  have hall : ∀ text ∈ fixedLines, text = "" ∨ IsCodeLine text := by decide +kernel
  exact (hall text h).resolve_left hne

/-- A line of code that is filled in with names, types and literals only is one line, and no
comment. -/
theorem codeLines_codeLine {IsType : String → Prop} (htypes : ∀ type, IsType type → IsOneLine type)
    {line : CodeLine} (h : line.IsFilled IsType) : codeLines line.text = [line.text] := by
  have hcode {text : String} (h : IsCodeLine text) : codeLines text = [text] :=
    codeLines_of_isCodeLine h
  cases line with
  | fixed text =>
    by_cases hempty : text = ""
    · rw [CodeLine.text_fixed, hempty]
      rfl
    · exact hcode (isCodeLine_fixed h hempty)
  | databaseName depth name =>
    have hhead : IsCodeLine (indentation depth ++ "#[postgres(name = ") :=
      isCodeLine_indented (by decide) depth
    exact hcode (isCodeLine_filledIn hhead (isOneLine_stringLiteral name) (by decide))
  | enumHead name => exact hcode (isCodeLine_filledIn (by decide) h.isOneLine (by decide))
  | variant name =>
    rw [CodeLine.text_variant, String.append_assoc]
    exact hcode ((isCodeLine_converted h (by decide)).after (by decide) (by decide))
  | nullable synonym name =>
    have hhead : IsCodeLine ("pub type " ++ synonym ++ " = Option<") :=
      isCodeLine_filledIn (by decide) h.1.isOneLine (by decide)
    exact hcode (isCodeLine_filledIn hhead h.2.isOneLine (by decide))
  | implHead name => exact hcode (isCodeLine_filledIn (by decide) h.isOneLine (by decide))
  | label name value =>
    have hhead : IsCodeLine ("            Self::" ++ name ++ " => ") :=
      isCodeLine_filledIn (by decide) h.isOneLine (by decide)
    exact hcode (isCodeLine_filledIn hhead (isOneLine_stringLiteral value) (by decide))
  | recordHead name => exact hcode (isCodeLine_filledIn (by decide) h.isOneLine (by decide))
  | field name type =>
    have hhead : IsCodeLine ("    pub " ++ name ++ ": ") :=
      isCodeLine_filledIn (by decide) h.1.isOneLine (by decide)
    exact hcode (isCodeLine_filledIn hhead (htypes type h.2) (by decide))
  | statement sql =>
    exact hcode (isCodeLine_listed (isCodeLine_stringLiteral sql) (by decide) (by decide))
  | boundFields fields =>
    have hpaths : ∀ path ∈ fields.map ("self." ++ ·), IsOneLine path := by
      intro path hpath
      obtain ⟨name, hname, rfl⟩ := List.mem_map.1 hpath
      exact (by decide : IsOneLine "self.").append (h name hname).isOneLine
    exact hcode (isCodeLine_listed (isCodeLine_boundText hpaths) (by decide) (by decide))
  | boundKeys count =>
    have hpaths : ∀ path ∈ (List.range count).map keyParamName, IsOneLine path := by
      intro path hpath
      obtain ⟨i, -, rfl⟩ := List.mem_map.1 hpath
      exact isOneLine_keyParamName i
    exact hcode (isCodeLine_listed (isCodeLine_boundText hpaths) (by decide) (by decide))
  | stored depth name position =>
    have hhead : IsCodeLine (indentation depth ++ "self." ++ name ++ " = row.get(") :=
      isCodeLine_filledIn (isCodeLine_indented (by decide) depth) h.isOneLine (by decide)
    exact hcode (isCodeLine_filledIn hhead (isOneLine_toString position) (by decide))
  | keyParams types => exact hcode (isCodeLine_keyParams fun type htype => htypes type (h type htype))
  | filled name position =>
    have hhead : IsCodeLine ("            " ++ name ++ ": row.get(") := by
      rw [String.append_assoc]
      exact (isCodeLine_converted h (by decide)).after (by decide) (by decide)
    exact hcode (isCodeLine_filledIn hhead (isOneLine_toString position) (by decide))

/-- How lines begin that are not as the templates hold them: those that declare nothing do not begin
with a `p`. -/
theorem head?_codeLine_ne {line : CodeLine} (h : ∀ text, line ≠ .fixed text) {c : Char}
    (hc : c ∉ [' ', '#', 'i', 's']) (hdeclared : c = 'p' → line.declared? = none) :
    line.text.toList.head? ≠ some c := by
  simp only [List.mem_cons, List.not_mem_nil, or_false, not_or, ← ne_eq] at hc
  obtain ⟨hblank, hhash, hi, hs⟩ := hc
  have hp {name : String} (hname : line.declared? = some name) : c ≠ 'p' := by
    intro heq
    rw [hdeclared heq] at hname
    cases hname
  have hindented {text : String} (depth : Nat) (htext : text.toList.head? ≠ some c) :
      (indentation depth ++ text).toList.head? ≠ some c := by
    rw [String.toList_append, indentation_toList]
    cases depth with
    | zero => exact htext
    | succ depth => simp [Nat.mul_succ, List.replicate_succ, hblank.symm]
  cases line with
  | fixed text => exact absurd rfl (h text)
  | databaseName depth name =>
    rw [CodeLine.text_databaseName, String.append_assoc, String.append_assoc]
    exact hindented depth (by simp [hhash.symm])
  | stored depth name position =>
    simp only [CodeLine.text_stored, String.append_assoc]
    exact hindented depth (by simp [hs.symm])
  | enumHead name => simp [(hp rfl).symm]
  | variant name => simp [hblank.symm]
  | nullable synonym name => simp [(hp rfl).symm]
  | implHead name => simp [hi.symm]
  | label name value => simp [hblank.symm]
  | recordHead name => simp [(hp rfl).symm]
  | field name type => simp [hblank.symm]
  | statement sql => simp [hblank.symm]
  | boundFields fields => simp [hblank.symm]
  | boundKeys count => simp [hblank.symm]
  | keyParams types => simp [hblank.symm]
  | filled name position => simp [hblank.symm]

end Lines

/-! ## The lines of code in a piece -/

/-- A property of all lines of code in a piece of source. -/
def AllCode (P : CodeLine → Prop) (ls : List SourceLine) : Prop :=
  ∀ line ∈ codeOf ls, P line

section Pieces

variable {P : CodeLine → Prop}

@[simp] theorem allCode_nil : AllCode P [] :=
  fun _ h => absurd h List.not_mem_nil

@[simp] theorem allCode_code (line : CodeLine) (ls : List SourceLine) :
    AllCode P (.code line :: ls) ↔ P line ∧ AllCode P ls :=
  List.forall_mem_cons

@[simp] theorem allCode_fixed (text : String) (ls : List SourceLine) :
    AllCode P (.fixed text :: ls) ↔ P (.fixed text) ∧ AllCode P ls :=
  List.forall_mem_cons

@[simp] theorem allCode_blank (ls : List SourceLine) :
    AllCode P (.blank :: ls) ↔ P (.fixed "") ∧ AllCode P ls :=
  List.forall_mem_cons

@[simp] theorem allCode_comment (text : String) (ls : List SourceLine) :
    AllCode P (.comment text :: ls) ↔ AllCode P ls :=
  Iff.rfl

@[simp] theorem allCode_append (before after : List SourceLine) :
    AllCode P (before ++ after) ↔ AllCode P before ∧ AllCode P after := by
  rw [AllCode, codeOf_append]
  exact List.forall_mem_append

@[simp] theorem allCode_flatMap {α : Type} (items : List α) (f : α → List SourceLine) :
    AllCode P (items.flatMap f) ↔ ∀ item ∈ items, AllCode P (f item) := by
  rw [AllCode, codeOf_flatMap]
  exact List.forall_mem_flatMap

@[simp] theorem allCode_map {α : Type} (items : List α) (f : α → CodeLine) :
    AllCode P (items.map fun item => .code (f item)) ↔ ∀ item ∈ items, P (f item) := by
  rw [AllCode, codeOf_map]
  exact List.forall_mem_map

variable {IsType : String → Prop}

theorem allCode_deprecation (deprecated : Bool) {indent : String}
    (h : indent = "" ∨ indent = "    ") :
    AllCode (CodeLine.IsFilled IsType) (deprecation deprecated indent) := by
  have hmark : "#[deprecated]" ∈ fixedLines ∧ "    #[deprecated]" ∈ fixedLines := by
    decide
  cases deprecated with
  | false => exact allCode_nil
  | true =>
    refine (allCode_code _ _).2 ⟨?_, allCode_nil⟩
    rcases h with rfl | rfl
    · exact hmark.1
    · exact hmark.2

/-- The piece for an enumeration. -/
theorem allCode_enumLines (e : Enumeration) (deprecated : Bool) :
    AllCode (CodeLine.IsFilled IsType) (enumLines (.ofEnumeration e) deprecated) := by
  have hname : IsConverted (EnumModel.ofEnumeration e).name := .type e.name
  have hnullable : IsConverted (EnumModel.ofEnumeration e).nullableName := .nullable e.name
  have hvariant {v : Variant} (hv : v ∈ (EnumModel.ofEnumeration e).values) :
      IsConverted v.variant := .variant hv
  simp +contextual [enumLines, enumDeclarationLines, nullableLines, labelFunctionLines,
    allCode_deprecation, CodeLine.IsFilled, fixedLines, hname,
    hnullable, hvariant]

end Pieces

section OfRecord

variable {IsType : String → Prop} {r : Record}

theorem mem_fields_of_mem_insertParams {f : Field} (h : f ∈ r.insertParams) : f ∈ r.fields := by
  obtain ⟨⟨f, i⟩, hentry, rfl⟩ := List.mem_map.1 h
  exact List.mem_of_getElem? (List.mem_zipIdx_iff_getElem?.1 (List.mem_of_mem_filter hentry))

theorem mem_fields_of_mem_keyFields {f : Field} (h : f ∈ r.keyFields) : f ∈ r.fields := by
  obtain ⟨i, -, hget⟩ := List.mem_filterMap.1 h
  exact List.mem_of_getElem? hget

theorem mem_fields_of_mem_insertScan {f : Field} (h : f ∈ r.insertScan) : f ∈ r.fields := by
  rw [insertScan] at h
  split at h
  · exact mem_fields_of_mem_keyFields h
  · cases h

/-- A name with a position is that of a field. -/
theorem exists_of_mem_positioned {fields : List Field} {entry : String × Nat}
    (h : entry ∈ positioned fields) : ∃ f ∈ fields, f.name = entry.1 := by
  obtain ⟨name, j⟩ := entry
  exact List.mem_map.1 (List.mem_of_getElem? (List.mem_zipIdx_iff_getElem?.1 h))

variable (hfields : ∀ f ∈ r.fields, IsConverted f.name ∧ IsType f.type) (deprecated : Bool)

include hfields

/-- The record for a table. -/
theorem allCode_recordLines (hname : IsConverted r.name) :
    AllCode (CodeLine.IsFilled IsType) (recordLines r deprecated) := by
  simp +contextual [recordLines, allCode_deprecation, CodeLine.IsFilled,
    fixedLines, hname, hfields]

theorem allCode_insertionLines (onConflict : Statement.OnConflict) :
    AllCode (CodeLine.IsFilled IsType) (insertionLines r onConflict) := by
  have hbound (f : Field) (hf : f ∈ r.insertParams) : IsConverted f.name :=
    (hfields f (mem_fields_of_mem_insertParams hf)).1
  simp +contextual [insertionLines, CodeLine.IsFilled, fixedLines, hbound]

theorem allCode_storedLines (depth : Nat) :
    AllCode (CodeLine.IsFilled IsType) (storedLines depth r) := by
  refine (allCode_map _ _).2 fun entry hentry => ?_
  obtain ⟨f, hf, hname⟩ := exists_of_mem_positioned hentry
  rw [CodeLine.IsFilled, ← hname]
  exact (hfields f (mem_fields_of_mem_insertScan hf)).1

theorem allCode_createLines : AllCode (CodeLine.IsFilled IsType) (createLines r deprecated) := by
  have hinsertion := allCode_insertionLines hfields .fail
  have hstored := allCode_storedLines hfields 2
  cases hgenerated : r.key.isGenerated with
  | true =>
    simp [createLines, hgenerated, allCode_deprecation,
      CodeLine.IsFilled, fixedLines, hinsertion, hstored]
  | false =>
    simp [createLines, hgenerated, allCode_deprecation,
      CodeLine.IsFilled, fixedLines, hinsertion]

theorem allCode_createUnlessConflictLines :
    AllCode (CodeLine.IsFilled IsType) (createUnlessConflictLines r deprecated) := by
  have hinsertion := allCode_insertionLines hfields .doNothing
  have hstored := allCode_storedLines hfields 4
  cases hgenerated : r.key.isGenerated with
  | true =>
    simp [createUnlessConflictLines, hgenerated, allCode_deprecation,
      CodeLine.IsFilled, fixedLines, hinsertion, hstored]
  | false =>
    simp [createUnlessConflictLines, hgenerated, allCode_deprecation,
      CodeLine.IsFilled, fixedLines, hinsertion]

theorem allCode_selectLines (s : Statement.Select) :
    AllCode (CodeLine.IsFilled IsType) (selectLines r deprecated s) := by
  have hkey (f : Field) (hf : f ∈ r.keyFields) : IsType f.type :=
    (hfields f (mem_fields_of_mem_keyFields hf)).2
  have hfilled : AllCode (CodeLine.IsFilled IsType)
      ((positioned r.selectScan).map fun entry => .code (.filled entry.1 entry.2)) := by
    refine (allCode_map _ _).2 fun entry hentry => ?_
    obtain ⟨f, hf, hname⟩ := exists_of_mem_positioned hentry
    rw [CodeLine.IsFilled, ← hname]
    exact (hfields f hf).1
  simp +contextual [selectLines, allCode_deprecation,
    CodeLine.IsFilled, fixedLines, -allCode_map, hkey, hfilled]

/-- The functions for a table. -/
theorem allCode_functionLines (hname : IsConverted r.name) :
    AllCode (CodeLine.IsFilled IsType) (functionLines r deprecated) := by
  have hselect : AllCode (CodeLine.IsFilled IsType)
      (r.select?.elim [] (selectLines r deprecated)) := by
    cases r.select? with
    | none => exact allCode_nil
    | some s => exact allCode_selectLines hfields deprecated s
  have hcreate := allCode_createLines hfields deprecated
  have hunless := allCode_createUnlessConflictLines hfields deprecated
  simp [functionLines, CodeLine.IsFilled, fixedLines, hname, hcreate, hunless,
    hselect]

end OfRecord

end Generation

end RowBindings
