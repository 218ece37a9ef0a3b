import RowBindings.Proofs.Generation.FilledLines
import RowBindings.Proofs.TypeMap.RuleSet

/-!
# Names of the database never become code

What is left of a generated file when the lines that are comments are deleted: the lines of code
that the templates lay down and, of each comment that a line break in a name has broken, the lines
that are no comments.
-/

namespace RowBindings.Generation

open Catalog Model Template Text TypeMap

/-! ## What is left of lines -/

/-- What is left of a line when comments are deleted. -/
def SourceLine.left : SourceLine → List String
  | .code line => [line.text]
  | .comment text => codeLines text

section Left

variable {ls : List SourceLine}

/-- What is left of a text is what is left of its lines. -/
theorem codeLines_sourceText (hne : ls ≠ [])
    (hcode : AllCode (fun line => codeLines line.text = [line.text]) ls) :
    codeLines (sourceText ls) = ls.flatMap SourceLine.left := by
  rw [sourceText, codeLines_intercalate (mt List.map_eq_nil_iff.1 hne), List.flatMap_map]
  refine List.flatMap_congr fun l hl => ?_
  cases l with
  | code line => exact hcode line (List.mem_filterMap.2 ⟨_, hl, rfl⟩)
  | comment text => rfl

theorem length_flatMap_left :
    (ls.flatMap SourceLine.left).length
      = (codeOf ls).length + ((commentsOf ls).flatMap codeLines).length := by
  induction ls with
  | nil => rfl
  | cons l ls ih =>
    cases l with
    | code line =>
      simp only [List.flatMap_cons, SourceLine.left, codeOf_code, commentsOf_code,
        List.length_append, List.length_cons, List.length_nil, ih]
      omega
    | comment text =>
      simp only [List.flatMap_cons, SourceLine.left, codeOf_comment, commentsOf_comment,
        List.length_append, ih]
      omega

/-- Just the lines of code are left if and only if nothing is left of any comment. -/
theorem flatMap_left_eq_iff :
    ls.flatMap SourceLine.left = (codeOf ls).map CodeLine.text
      ↔ ∀ text ∈ commentsOf ls, codeLines text = [] := by
  constructor
  · intro h
    have hlength := congrArg List.length h
    rw [length_flatMap_left, List.length_map, Nat.add_eq_left, List.length_eq_zero_iff,
      List.flatMap_eq_nil_iff] at hlength
    exact hlength
  · intro h
    induction ls with
    | nil => rfl
    | cons l ls ih =>
      cases l with
      | code line => exact congrArg (line.text :: ·) (ih h)
      | comment text =>
        obtain ⟨htext, hls⟩ := List.forall_mem_cons.1 h
        rw [List.flatMap_cons, SourceLine.left, htext, List.nil_append]
        exact ih hls

/-- Where the lines of code are filled in with names, types and literals only, they are all that is
left if and only if nothing is left of any comment. -/
theorem codeLines_sourceText_eq_iff {IsType : String → Prop}
    (htypes : ∀ type, IsType type → IsOneLine type) (hne : ls ≠ [])
    (hfilled : AllCode (CodeLine.IsFilled IsType) ls) :
    codeLines (sourceText ls) = (codeOf ls).map CodeLine.text
      ↔ ∀ text ∈ commentsOf ls, codeLines text = [] := by
  rw [codeLines_sourceText hne fun line hline => codeLines_codeLine htypes (hfilled line hline)]
  exact flatMap_left_eq_iff

end Left

/-! ## The comments and the code of a piece -/

section Pieces

variable (r : Record) (deprecated : Bool)

@[simp] theorem commentsOf_deprecation (indent : String) :
    commentsOf (deprecation deprecated indent) = [] := by
  cases deprecated with
  | false => rfl
  | true => rfl

theorem commentsOf_enumLines (m : EnumModel) :
    commentsOf (enumLines m deprecated)
      = ("/// " ++ m.name ++ " represents " ++ m.source.schema ++ "." ++ m.source.name)
        :: m.values.map (fun v => "    /// " ++ v.name)
        ++ ["/// Nullable " ++ m.name, "    /// Label as stored in the database"] := by
  simp [enumLines, enumDeclarationLines, nullableLines, labelFunctionLines, List.map_eq_flatMap]

theorem commentsOf_recordLines :
    commentsOf (recordLines r deprecated)
      = ("/// " ++ r.name ++ " represents " ++ r.table.schema ++ "." ++ r.table.name)
        :: r.fields.map fun f => "    /// " ++ f.column.name := by
  simp [recordLines, List.map_eq_flatMap]

/-- The lines of code of the record for a table. Between the braces there is one for each column. -/
def recordCode (rules : RuleSet) (t : Table) (deprecated : Bool) : List CodeLine :=
  codeOf (deprecation deprecated "")
  ++ [.fixed "#[derive(Debug, Clone, PartialEq)]", .recordHead (Identifier.typeName t.name)]
  ++ t.columns.map (fun column => .field (Identifier.fieldName column.name)
    (rules.resolve column.dataType column.notNull))
  ++ [.fixed "\x7d"]

theorem recordLines_ne_nil : recordLines r deprecated ≠ [] := List.cons_ne_nil _ _

theorem functionLines_ne_nil : functionLines r deprecated ≠ [] := List.cons_ne_nil _ _

theorem codeOf_recordLines (rules : RuleSet) (policy : KeyPolicy) (t : Table) :
    codeOf (recordLines (.ofTable rules policy t) deprecated) = recordCode rules t deprecated := by
  simp [recordLines, recordCode, Record.ofTable, Record.fieldOf, List.map_eq_flatMap,
    List.flatMap_assoc]

/-- The comments of the functions name the record and nothing else. -/
theorem commentsOf_functionLines :
    commentsOf (functionLines r deprecated)
      = ["    /// Inserts the " ++ r.name ++ " into the database.",
          "    /// Inserts the " ++ r.name ++ " unless it conflicts with an existing row.",
          "    /// Returns `false` when the insert was skipped."]
        ++ if r.select?.isSome then
          ["    /// Selects the " ++ r.name ++ " with the given primary key."] else [] := by
  have hcreate : commentsOf (createLines r deprecated)
      = ["    /// Inserts the " ++ r.name ++ " into the database."] := by
    cases hgenerated : r.key.isGenerated with
    | true => simp [createLines, insertionLines, storedLines, hgenerated]
    | false => simp [createLines, insertionLines, hgenerated]
  have hunless : commentsOf (createUnlessConflictLines r deprecated)
      = ["    /// Inserts the " ++ r.name ++ " unless it conflicts with an existing row.",
        "    /// Returns `false` when the insert was skipped."] := by
    cases hgenerated : r.key.isGenerated with
    | true => simp [createUnlessConflictLines, insertionLines, storedLines, hgenerated]
    | false => simp [createUnlessConflictLines, insertionLines, hgenerated]
  have hselect : commentsOf (r.select?.elim [] (selectLines r deprecated))
      = if r.select?.isSome then
          ["    /// Selects the " ++ r.name ++ " with the given primary key."] else [] := by
    cases r.select? with
    | none => rfl
    | some s => simp [selectLines]
  simp [functionLines, hcreate, hunless, hselect]

end Pieces

/-! ## The comments of names without line breaks -/

/-- What fills in a comment between two texts of its template. -/
theorem isCommentLine_filledIn {before text after : String} (hbefore : IsCommentLine before)
    (htext : IsOneLine text) (hafter : IsOneLine after) : IsCommentLine (before ++ text ++ after) :=
  (hbefore.append htext).append hafter

/-- The comment that says what a declared name stands for. -/
theorem isCommentLine_represents {declared schema name : String} (hdeclared : IsOneLine declared)
    (hschema : IsOneLine schema) (hname : IsOneLine name) :
    IsCommentLine ("/// " ++ declared ++ " represents " ++ schema ++ "." ++ name) := by
  have hhead : IsCommentLine ("/// " ++ declared ++ " represents ") :=
    isCommentLine_filledIn (by decide) hdeclared (by decide)
  exact (isCommentLine_filledIn hhead hschema (by decide)).append hname

theorem isCommentLine_enumLines {e : Enumeration} (hschema : IsOneLine e.schema)
    (hname : IsOneLine e.name) (deprecated : Bool) {text : String}
    (h : text ∈ commentsOf (enumLines (.ofEnumeration e) deprecated)) : IsCommentLine text := by
  have hmodel : IsOneLine (EnumModel.ofEnumeration e).name := (IsConverted.type e.name).isOneLine
  rw [commentsOf_enumLines, List.cons_append] at h
  rcases List.mem_cons.1 h with rfl | h
  · exact isCommentLine_represents hmodel hschema hname
  · rcases List.mem_append.1 h with h | h
    · obtain ⟨v, hv, rfl⟩ := List.mem_map.1 h
      have hvariant := (IsConverted.variant hv).isOneLine
      obtain ⟨entry, -, rfl⟩ := List.mem_map.1 hv
      exact (by decide : IsCommentLine "    /// ").append
        ((hmodel.append (by decide : IsOneLine "_")).append hvariant)
    · rcases List.mem_pair.1 h with rfl | rfl
      · exact (by decide : IsCommentLine "/// Nullable ").append hmodel
      · decide

/-- The text for an enumeration is left with its lines of code, if the names that stand in its comment
have no line breaks. -/
theorem codeLines_enumLines {e : Enumeration} (hschema : IsOneLine e.schema)
    (hname : IsOneLine e.name) (deprecated : Bool) :
    codeLines (sourceText (enumLines (.ofEnumeration e) deprecated))
      = (codeOf (enumLines (.ofEnumeration e) deprecated)).map CodeLine.text := by
  refine (codeLines_sourceText_eq_iff (fun _ h => h) (List.cons_ne_nil _ _)
    (allCode_enumLines e deprecated)).2 fun text htext => ?_
  exact codeLines_of_isCommentLine (isCommentLine_enumLines hschema hname deprecated htext)

theorem isCommentLine_recordLines {r : Record} (hname : IsOneLine r.name)
    (hschema : IsOneLine r.table.schema) (htable : IsOneLine r.table.name)
    (hcolumns : ∀ f ∈ r.fields, IsOneLine f.column.name) (deprecated : Bool) {text : String}
    (h : text ∈ commentsOf (recordLines r deprecated)) : IsCommentLine text := by
  rw [commentsOf_recordLines] at h
  rcases List.mem_cons.1 h with rfl | h
  · exact isCommentLine_represents hname hschema htable
  · obtain ⟨f, hf, rfl⟩ := List.mem_map.1 h
    exact (by decide : IsCommentLine "    /// ").append (hcolumns f hf)

theorem isCommentLine_functionLines {r : Record} (hname : IsOneLine r.name) (deprecated : Bool)
    {text : String} (h : text ∈ commentsOf (functionLines r deprecated)) : IsCommentLine text := by
  rw [commentsOf_functionLines] at h
  rcases List.mem_append.1 h with h | h
  · rcases List.mem_cons.1 h with rfl | h
    · exact isCommentLine_filledIn (by decide) hname (by decide)
    · rcases List.mem_pair.1 h with rfl | rfl
      · exact isCommentLine_filledIn (by decide) hname (by decide)
      · decide
  · split at h
    · rw [List.mem_singleton.1 h]
      exact isCommentLine_filledIn (by decide) hname (by decide)
    · cases h

/-! ## The whole file -/

namespace Config

/-- The types of the fields of all included tables. -/
def columnTypes (c : Config) (s : Schema) : List String :=
  (c.tables s).flatMap fun t => t.columns.map fun column =>
    (c.allRules s).resolve column.dataType column.notNull

/-- The names that stand in comments as they are in the database. -/
def rawNames (c : Config) (s : Schema) : List String :=
  c.package :: s.name :: (c.enumerations s).flatMap (fun e => [e.schema, e.name])
    ++ (c.tables s).flatMap fun t => t.schema :: t.name :: t.columns.map (·.name)

variable {c : Config} {s : Schema}

theorem forall_mem_records {P : Record → Prop} :
    (∀ r ∈ c.records s, P r)
      ↔ ∀ t ∈ c.tables s, P (.ofTable (c.allRules s) c.keyPolicy t) :=
  List.forall_mem_map

theorem forall_mem_enumModels {P : EnumModel → Prop} :
    (∀ m ∈ c.enumModels s, P m) ↔ ∀ e ∈ c.enumerations s, P (.ofEnumeration e) :=
  List.forall_mem_map

theorem allCode_headerLines {IsType : String → Prop} :
    AllCode (CodeLine.IsFilled IsType) (c.headerLines s) := by
  have hmem : "" ∈ fixedLines ∧ "use postgres::GenericClient;" ∈ fixedLines
      ∧ "use postgres_types::\x7bFromSql, ToSql\x7d;" ∈ fixedLines := by decide
  have himports : AllCode (CodeLine.IsFilled IsType) ((c.imports s).map .fixed) := by
    refine (allCode_map (c.imports s) CodeLine.fixed).2 fun text htext => ?_
    rcases List.mem_append.1 htext with htext | htext
    · split at htext
      · exact List.mem_singleton.1 htext ▸ hmem.2.1
      · cases htext
    · split at htext
      · exact List.mem_singleton.1 htext ▸ hmem.2.2
      · cases htext
  have hblank : CodeLine.IsFilled IsType (.fixed "") := hmem.1
  rw [headerLines]
  split
  · simp [hblank]
  · simp [hblank, himports]

theorem isFilled_fields {t : Table} (ht : t ∈ c.tables s) :
    ∀ f ∈ (Record.ofTable (c.allRules s) c.keyPolicy t).fields,
      IsConverted f.name ∧ f.type ∈ c.columnTypes s := by
  refine List.forall_mem_map.2 fun column hcolumn => ⟨.field column.name, ?_⟩
  exact List.mem_flatMap.2 ⟨t, ht, List.mem_map.2 ⟨column, hcolumn, rfl⟩⟩

theorem allCode_pieceLines :
    ∀ piece ∈ c.pieceLines s, AllCode (CodeLine.IsFilled (· ∈ c.columnTypes s)) piece := by
  refine List.forall_mem_append.2 ⟨List.forall_mem_map.2 ?_, List.forall_mem_map.2 ?_⟩
  · exact forall_mem_enumModels.2 fun e _ => allCode_enumLines e _
  · exact forall_mem_records.2 fun t ht => (allCode_append _ _).2
      ⟨allCode_recordLines (isFilled_fields ht) _ (.type t.name),
        allCode_functionLines (isFilled_fields ht) _ (.type t.name)⟩

/-- Every line of code in the file is filled in with names, types and literals only. -/
theorem allCode_fileLines :
    AllCode (CodeLine.IsFilled (· ∈ c.columnTypes s)) (c.fileLines s) := by
  refine (allCode_append _ _).2 ⟨allCode_headerLines, ?_⟩
  split
  · exact (allCode_blank _).2 ⟨(List.mem_cons_self : "" ∈ fixedLines), allCode_nil⟩
  · rw [← List.flatMap_id, allCode_flatMap]
    exact allCode_pieceLines

/-- The comments of the file are those of its header and of the pieces. -/
theorem forall_mem_commentsOf_fileLines {P : String → Prop} :
    (∀ text ∈ commentsOf (c.fileLines s), P text)
      ↔ (∀ text ∈ commentsOf (c.headerLines s), P text)
        ∧ ∀ piece ∈ c.pieceLines s, ∀ text ∈ commentsOf piece, P text := by
  rw [fileLines, commentsOf_append, List.forall_mem_append, and_congr_right_iff]
  intro _
  cases hpieces : c.pieceLines s with
  | nil =>
    exact ⟨fun _ piece h => absurd h List.not_mem_nil, fun _ text h => absurd h List.not_mem_nil⟩
  | cons piece pieces =>
    rw [List.isEmpty_cons, if_neg Bool.false_ne_true, ← List.flatMap_id, commentsOf_flatMap]
    exact List.forall_mem_flatMap

theorem commentsOf_headerLines :
    commentsOf (c.headerLines s)
      = [marker,
        "//! Package `" ++ c.package ++ "`: data access for the `" ++ s.name ++ "` schema."] := by
  have himports : commentsOf ((c.imports s).map .fixed) = [] :=
    commentsOf_map (c.imports s) CodeLine.fixed
  rw [headerLines]
  split
  · simp
  · simp [himports]

/-- Where no name has a line break, every comment of the file is a comment. -/
theorem isCommentLine_fileLines (hnames : ∀ name ∈ c.rawNames s, IsOneLine name) :
    ∀ text ∈ commentsOf (c.fileLines s), IsCommentLine text := by
  rw [rawNames, List.cons_append, List.cons_append, List.forall_mem_cons, List.forall_mem_cons,
    List.forall_mem_append, List.forall_mem_flatMap, List.forall_mem_flatMap] at hnames
  obtain ⟨hpackage, hschema, henums, htables⟩ := hnames
  have hpieces : ∀ piece ∈ c.pieceLines s, ∀ text ∈ commentsOf piece, IsCommentLine text := by
    refine List.forall_mem_append.2 ⟨List.forall_mem_map.2 ?_, List.forall_mem_map.2 ?_⟩
    · refine forall_mem_enumModels.2 fun e he text => ?_
      have heschema := henums e he e.schema List.mem_cons_self
      have hename := henums e he e.name (List.mem_cons_of_mem _ List.mem_cons_self)
      exact isCommentLine_enumLines heschema hename _
    · refine forall_mem_records.2 fun t ht => ?_
      have htable := htables t ht
      rw [List.forall_mem_cons, List.forall_mem_cons, List.forall_mem_map] at htable
      obtain ⟨htschema, htname, hcolumns⟩ := htable
      have hname : IsOneLine (Record.ofTable (c.allRules s) c.keyPolicy t).name :=
        (IsConverted.type t.name).isOneLine
      rw [commentsOf_append]
      exact List.forall_mem_append.2
        ⟨fun text => isCommentLine_recordLines hname htschema htname
            (List.forall_mem_map.2 hcolumns) _,
          fun text => isCommentLine_functionLines hname _⟩
  refine forall_mem_commentsOf_fileLines.2 ⟨?_, hpieces⟩
  rw [commentsOf_headerLines]
  refine List.forall_mem_cons.2 ⟨by decide, List.forall_mem_singleton.2 ?_⟩
  have hhead : IsCommentLine ("//! Package `" ++ c.package ++ "`: data access for the `") :=
    isCommentLine_filledIn (by decide) hpackage (by decide)
  exact isCommentLine_filledIn hhead hschema (by decide)

/-- What is left of a generated file is what is left of the lines that are laid down for it. -/
theorem codeLines_fileLines (htypes : ∀ type ∈ c.columnTypes s, IsOneLine type) :
    codeLines (sourceText (c.fileLines s)) = (c.fileLines s).flatMap SourceLine.left :=
  codeLines_sourceText fileLines_ne_nil fun line hline =>
    codeLines_codeLine htypes (allCode_fileLines line hline)

/-- The record for a table has just its lines of code, one for each column between the braces, if
and only if nothing is left of its comments. -/
theorem codeLines_recordText_iff (htypes : ∀ type ∈ c.columnTypes s, IsOneLine type) {t : Table}
    (ht : t ∈ c.tables s) :
    codeLines (c.recordText (.ofTable (c.allRules s) c.keyPolicy t))
        = (recordCode (c.allRules s) t (c.deprecated.contains t.name)).map CodeLine.text
      ↔ ∀ text ∈ ("/// " ++ Identifier.typeName t.name ++ " represents " ++ t.schema ++ "." ++ t.name)
          :: t.columns.map ("    /// " ++ ·.name), codeLines text = [] := by
  have hfilled := allCode_recordLines (isFilled_fields ht) (c.deprecated.contains t.name)
    (.type t.name)
  have hiff := codeLines_sourceText_eq_iff htypes (recordLines_ne_nil _ _) hfilled
  have hcomments : (Record.ofTable (c.allRules s) c.keyPolicy t).fields.map
      (fun f => "    /// " ++ f.column.name) = t.columns.map ("    /// " ++ ·.name) := List.map_map
  rw [codeOf_recordLines, commentsOf_recordLines, hcomments] at hiff
  exact hiff

/-- Besides comments, a file that is not formatted holds the lines of code laid down for it, which
are filled in with converted names, types and literals, and nothing else, if and only if nothing is
left of its comments when comments are deleted. This is so if no name has a line break. The same
holds of the record for a table: between its braces stands one line for each column. -/
theorem codeLines_generate_iff {formatter : Formatter} (hplain : c.IsPlain formatter)
    (htypes : ∀ type ∈ c.columnTypes s, IsOneLine type) :
    ∃ r out, c.renderer {} formatter = .ok r ∧ c.generate {} formatter s = .ok out
      ∧ (∀ line ∈ codeOf (c.fileLines s), line.IsFilled (· ∈ c.columnTypes s))
      ∧ (codeLines out = (codeOf (c.fileLines s)).map CodeLine.text
          ↔ ∀ text ∈ commentsOf (c.fileLines s), codeLines text = [])
      ∧ ((∀ name ∈ c.rawNames s, IsOneLine name) →
          ∀ text ∈ commentsOf (c.fileLines s), codeLines text = [])
      ∧ ∀ t ∈ c.tables s, ∃ fragment,
          r.renderRecord recordTemplate (.ofTable (c.allRules s) c.keyPolicy t)
              (c.deprecated.contains t.name) = .ok fragment
          ∧ (codeLines fragment
              = (recordCode (c.allRules s) t (c.deprecated.contains t.name)).map CodeLine.text
            ↔ ∀ text ∈ ("/// " ++ Identifier.typeName t.name ++ " represents " ++ t.schema ++ "."
                ++ t.name) :: t.columns.map ("    /// " ++ ·.name), codeLines text = []) := by
  have hgenerate : c.generate {} formatter s = .ok (sourceText (c.fileLines s)) :=
    generate_of_isPlain hplain
  obtain ⟨r, _, _, hr, _⟩ := (generate_eq_ok_iff _).1 hgenerate
  have hformatter : r.formatter = .passthrough :=
    (templates_renderer hplain.customEnum hr).1.trans hplain.formatter
  refine ⟨r, _, hr, hgenerate, allCode_fileLines,
    codeLines_sourceText_eq_iff htypes fileLines_ne_nil allCode_fileLines,
    fun hnames text htext => codeLines_of_isCommentLine (isCommentLine_fileLines hnames text htext),
    fun t ht => ⟨_, ?_, codeLines_recordText_iff htypes ht⟩⟩
  refine (render_eq_ok_iff (lookup_renderer hplain.customEnum hr rfl) (render_record _ _)).2 ?_
  rw [hformatter]
  rfl

/-- A table with a line break in its name. -/
def brokenSchema : Schema where
  name := "public"
  tables := [{
    schema := "public"
    name := "t\nuse std::process::exit as u;"
    kind := "r"
    columns := [] }]
  enumerations := []

/-- A table with an ordinary name and one column. -/
def notesSchema : Schema where
  name := "public"
  tables := [{
    schema := "public"
    name := "notes"
    kind := "r"
    columns := [{
      ordinal := 1
      name := "body"
      dataType := "text"
      ddlType := "text"
      notNull := true
      defaultValue := none
      isPrimaryKey := false
      identity := .none }] }]
  enumerations := []

/-- Nothing is formatted, and every column is a string. -/
def stringConfig : Config where
  rules := .ofFallback "String"
  format := false

theorem codeLines_generate_notes :
    stringConfig.IsPlain .passthrough
    ∧ (∀ type ∈ stringConfig.columnTypes notesSchema, IsOneLine type)
    ∧ (∀ name ∈ stringConfig.rawNames notesSchema, IsOneLine name)
    ∧ ∃ out, stringConfig.generate {} .passthrough notesSchema = .ok out
      ∧ codeLines out = (codeOf (stringConfig.fileLines notesSchema)).map CodeLine.text := by
  have hplain : stringConfig.IsPlain .passthrough := ⟨rfl, rfl, rfl⟩
  have htypes : ∀ type ∈ stringConfig.columnTypes notesSchema, IsOneLine type := by decide +kernel
  have hnames : ∀ name ∈ stringConfig.rawNames notesSchema, IsOneLine name := by decide +kernel
  obtain ⟨r, out, -, hout, -, hcode, hcomments, -⟩ := codeLines_generate_iff hplain htypes
  exact ⟨hplain, htypes, hnames, out, hout, hcode.2 (hcomments hnames)⟩

/-- The rest of a name after a line break becomes a line of code that is none of the templates'. -/
theorem generate_name_becomes_code :
    ∃ out, stringConfig.generate {} .passthrough brokenSchema = .ok out
      ∧ "use std::process::exit as u;" ∈ codeLines out
      ∧ ∀ line : CodeLine, line.IsFilled (· ∈ stringConfig.columnTypes brokenSchema) →
        line.text ≠ "use std::process::exit as u;" := by
  have hplain : stringConfig.IsPlain .passthrough := ⟨rfl, rfl, rfl⟩
  have htypes : ∀ type ∈ stringConfig.columnTypes brokenSchema, IsOneLine type := by decide +kernel
  refine ⟨_, generate_of_isPlain hplain, ?_, fun line hline htext => ?_⟩
  · have hcomment : SourceLine.comment
        "/// T_useStd__process__exitAsU_ represents public.t\nuse std::process::exit as u;"
          ∈ stringConfig.fileLines brokenSchema := by
      decide +kernel
    rw [codeLines_fileLines htypes]
    exact List.mem_flatMap.2 ⟨_, hcomment, by decide +kernel⟩
  · have hfixed (text : String) (heq : line = .fixed text) : False := by
      rw [heq] at hline htext
      have hnot : "use std::process::exit as u;" ∉ fixedLines := by decide +kernel
      exact hnot ((htext : text = _) ▸ hline)
    refine head?_codeLine_ne hfixed (by decide : 'u' ∉ _) (fun h => absurd h (by decide)) ?_
    rw [htext]
    decide

end Config

end RowBindings.Generation
