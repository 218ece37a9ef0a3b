import RowBindings.Proofs.Generation.DeclaredNames
import RowBindings.Proofs.Model.Registration
import RowBindings.Source.File

/-!
# Where the types of fields come from

The type of a field is that of a configured rule, that of the fallback, or one that the file itself
declares for an enumeration: rules for enumerations are tried last, and each comes with a piece of
the file.
-/

namespace RowBindings

namespace Generation

open Catalog Model Template Text TypeMap

/-! ## Types of columns -/

/-- What the type of a field for a column comes from, if some rules are configured, others are there
besides and there are pieces for some enumerations. -/
inductive TypeOrigin (configured all : RuleSet) (models : List EnumModel) (column : Column) :
    String → Prop
  /-- The first configured rule that covers the type of the column. -/
  | configured {rule : Rule} (h : configured.ruleFor? column.dataType = some rule) :
    TypeOrigin configured all models column
      (if column.notNull then rule.notNullType else rule.nullableType)
  /-- The fallback, if no rule covers the type of the column. -/
  | fallback (h : all.ruleFor? column.dataType = none) :
    TypeOrigin configured all models column configured.fallback.notNullType
  /-- An enumeration, if no configured rule covers the type of the column. -/
  | enumeration {m : EnumModel} (hm : m ∈ models) (hcovers : m.rule.covers column.dataType = true)
    (h : configured.ruleFor? column.dataType = none) :
    TypeOrigin configured all models column (if column.notNull then m.name else m.nullableName)

theorem typeOrigin_resolve (configured : RuleSet) (models : List EnumModel) (column : Column) :
    TypeOrigin configured (EnumModel.register configured models) models column
      ((EnumModel.register configured models).resolve column.dataType column.notNull) := by
  have hfind := EnumModel.ruleFor?_register configured models column.dataType
  rw [RuleSet.resolve, EnumModel.fallback_register]
  cases hrule : configured.ruleFor? column.dataType with
  | some rule =>
    rw [hfind, hrule]
    exact .configured hrule
  | none =>
    rw [hrule, Option.none_or] at hfind
    cases henum : (EnumModel.registered configured models).find?
        fun m => m.rule.covers column.dataType with
    | none =>
      rw [henum] at hfind
      rw [hfind]
      exact .fallback hfind
    | some m =>
      rw [henum] at hfind
      rw [hfind]
      have hm := (EnumModel.registered_sublist configured models).subset
        (List.mem_of_find?_eq_some henum)
      have hcovers : m.rule.covers column.dataType = true := by
        simpa only using List.find?_some henum
      exact .enumeration hm hcovers hrule

/-! ## Declarations of enumerations -/

/-- The characters of lines, blanks apart. -/
def solidText (ls : List String) : List Char :=
  (ls.flatMap String.toList).filter fun c => !Unicode.isBlank c

/-- A text declares the type of an enumeration and, in one line or in several, the name for columns
that may be null. -/
structure DeclaresEnumeration (text name nullable : String) : Prop where
  enumeration : ∃ line ∈ codeLines text, ∃ rest, line = "pub enum " ++ name ++ " \x7b" ++ rest
  nullable : ∃ before first rest after, codeLines text = before ++ first :: rest ++ after
    ∧ (∃ target, first = "pub type " ++ nullable ++ " = Option<" ++ target)
    ∧ (solidText (first :: rest) = ("pubtype" ++ nullable ++ "=Option<" ++ name ++ ">;").toList
      ∨ solidText (first :: rest) = ("pubtype" ++ nullable ++ "=Option<" ++ name ++ ",>;").toList)

theorem filter_not_isBlank {name : String}
    (h : ∀ c ∈ name.toList, Identifier.isIdentifierChar c = true) :
    (name.toList.filter fun c => !Unicode.isBlank c) = name.toList :=
  List.filter_eq_self.2 fun c hc => by rw [Identifier.isBlank_of_isIdentifierChar (h c hc)]; rfl

/-- The text for an enumeration declares it, if the names that stand in its comment have no line
breaks. -/
theorem declaresEnumeration_enumText {c : Config} {e : Enumeration} (hschema : IsOneLine e.schema)
    (hname : IsOneLine e.name) :
    DeclaresEnumeration (c.enumText (.ofEnumeration e)) (EnumModel.ofEnumeration e).name
      (EnumModel.ofEnumeration e).nullableName := by
  have hconverted : IsConverted (EnumModel.ofEnumeration e).name := .type e.name
  have hnullable : IsConverted (EnumModel.ofEnumeration e).nullableName := .nullable e.name
  have hlines : codeLines (c.enumText (.ofEnumeration e))
      = (codeOf (enumLines (.ofEnumeration e) (c.deprecated.contains e.name))).map CodeLine.text :=
    codeLines_enumLines hschema hname _
  constructor
  · refine ⟨(CodeLine.enumHead (EnumModel.ofEnumeration e).name).text, ?_, "",
      String.append_empty.symm⟩
    rw [hlines]
    refine List.mem_map_of_mem ?_
    simp [enumLines, enumDeclarationLines]
  · have hmem : (CodeLine.nullable (EnumModel.ofEnumeration e).nullableName
        (EnumModel.ofEnumeration e).name).text ∈ codeLines (c.enumText (.ofEnumeration e)) := by
      rw [hlines]
      refine List.mem_map_of_mem ?_
      simp [enumLines, nullableLines]
    obtain ⟨before, after, hsplit⟩ := List.append_of_mem hmem
    refine ⟨before, _, [], after, by rw [hsplit, List.append_assoc]; rfl,
      ⟨(EnumModel.ofEnumeration e).name ++ ">;", ?_⟩, .inl ?_⟩
    · rw [CodeLine.text_nullable, String.append_assoc]
    · have hfixed : ("pub type ".toList.filter fun c => !Unicode.isBlank c) = "pubtype".toList
          ∧ (" = Option<".toList.filter fun c => !Unicode.isBlank c) = "=Option<".toList
          ∧ (">;".toList.filter fun c => !Unicode.isBlank c) = ">;".toList := by decide
      simp only [solidText, List.flatMap_cons, List.flatMap_nil, List.append_nil,
        CodeLine.text_nullable, String.toList_append, List.filter_append, hfixed,
        filter_not_isBlank hnullable.isIdentifierChar_of_mem,
        filter_not_isBlank hconverted.isIdentifierChar_of_mem]

namespace Config

/-! ## Two formatted files -/

/-- Types are those of `stringConfig`, and pieces are formatted. -/
def formattingConfig : Config :=
  { stringConfig with format := true }

/-- A column of an enumeration type. -/
def moodColumn : Column where
  ordinal := 1
  name := "mood"
  dataType := "mood"
  ddlType := "mood"
  notNull := true
  defaultValue := none
  isPrimaryKey := false
  identity := .none

/-- A table with that column. -/
def moodTable : Table where
  schema := "public"
  name := "pets"
  kind := "r"
  columns := [moodColumn]

/-- The table and an enumeration. -/
def moodSchema (e : Enumeration) : Schema where
  name := "public"
  tables := [moodTable]
  enumerations := [e]

/-- The record for the table if the column has the given type. -/
def moodRecord (type : String) : Record where
  name := "Pets"
  table := moodTable
  key := .ofColumns {} [moodColumn]
  fields := [{ name := "mood", type, column := moodColumn }]

/-- The formatter on characters. -/
def formatChars (cs : List Char) : Option String :=
  Source.format (String.ofList cs)

theorem format_eq_formatChars (text : String) :
    Source.format text = formatChars text.toList := by
  rw [formatChars, String.ofList_toList]

/-- A text is formatted to another one if it is laid out with the same characters. -/
theorem format_eq_some {text formatted : String}
    (h : (Source.fileLayout text).map
        (fun d => (d.foldl Source.Layout.State.scan {}).finish.out.reverse.flatMap String.toList)
      = some formatted.toList) :
    Source.format text = some formatted := by
  obtain ⟨d, hd, hchars⟩ := Option.map_eq_some_iff.1 h
  rw [Source.format, hd, Option.map_some]
  exact congrArg some (String.toList_inj.1 (String.toList_join.trans hchars))

theorem isSome_format_recordText_mood (type : String) (htype : type ∈ ["Mood", "X___"]) :
    (Source.format (formattingConfig.recordText (moodRecord type))).isSome = true := by
  rw [format_eq_formatChars]
  simp only [recordText, recordLines, moodRecord, moodTable, moodColumn, deprecation,
    formattingConfig, stringConfig, List.contains_nil, List.cons_append, List.nil_append,
    sourceText_cons_cons, sourceText_singleton, List.flatMap_cons, List.flatMap_nil,
    List.append_nil, Bool.false_eq_true, if_false, SourceLine.text_code, SourceLine.text_fixed,
    SourceLine.text_comment, CodeLine.text_recordHead, CodeLine.text_field, String.toList_append,
    String.reduceToList]
  rw [formatChars, Source.format, Source.fileLayout, String.toList_ofList]
  rcases List.mem_pair.1 htype with rfl | rfl
  · decide +kernel
  · decide +kernel

theorem isSome_format_functionText_mood (type : String) :
    (Source.format (formattingConfig.functionText (moodRecord type))).isSome = true := by
  have hname : (moodRecord type).name = "Pets" := rfl
  have hselect : (moodRecord type).select? = none := rfl
  have hgenerated : (moodRecord type).key.isGenerated = false := rfl
  have hstatement : (moodRecord type).insert = (moodRecord "").insert := rfl
  have hparams : (moodRecord type).insertParams.map (·.name) = ["mood"] := rfl
  have hinsert : stringLiteral ((moodRecord "").insert.text .fail)
      = "\"INSERT INTO pets (mood) VALUES ($1)\"" := by decide +kernel
  have hunless : stringLiteral ((moodRecord "").insert.text .doNothing)
      = "\"INSERT INTO pets (mood) VALUES ($1) ON CONFLICT DO NOTHING\"" := by decide +kernel
  have hbound : boundText (["mood"].map ("self." ++ ·)) = "&[&self.mood, ]" := by decide +kernel
  have hcreate := toList_eq_of_eq_ofList (rfl :
    "    pub fn create<C: GenericClient>(&mut self, db: &mut C) -> Result<(), postgres::Error> \x7b"
      = String.ofList _)
  rw [format_eq_formatChars]
  simp only [functionText, functionLines, createLines, createUnlessConflictLines, insertionLines,
    hname, hselect, hgenerated, hstatement, hparams, hinsert, hunless, hbound, Option.elim_none,
    deprecation, formattingConfig, stringConfig, List.contains_nil, List.cons_append,
    List.nil_append, sourceText_cons_cons, sourceText_singleton, List.append_nil,
    Bool.false_eq_true, if_false, SourceLine.text_code, SourceLine.text_fixed,
    SourceLine.text_comment, SourceLine.text_blank, CodeLine.text_implHead,
    CodeLine.text_statement, CodeLine.text_boundFields, String.toList_append, hcreate,
    String.reduceToList]
  rw [formatChars, Source.format, Source.fileLayout, String.toList_ofList]
  decide +kernel

/-- A file for the table and an enumeration is generated if the piece for the enumeration can be
formatted. -/
theorem exists_generate_moodSchema {e : Enumeration} {fragment type : String}
    (htype : type ∈ ["Mood", "X___"])
    (hrecords : formattingConfig.records (moodSchema e) = [moodRecord type])
    (hfragment : Source.format (formattingConfig.enumText (.ofEnumeration e)) = some fragment) :
    ∃ out table, formattingConfig.generate {} Source.format (moodSchema e) = .ok out
      ∧ out = formattingConfig.header (moodSchema e) ++ "\n".intercalate [fragment, table] := by
  obtain ⟨declaration, hdeclaration⟩ :=
    Option.isSome_iff_exists.1 (isSome_format_recordText_mood type htype)
  obtain ⟨functions, hfunctions⟩ :=
    Option.isSome_iff_exists.1 (isSome_format_functionText_mood type)
  have hr : formattingConfig.renderer {} Source.format = .ok (.standard {} Source.format) := rfl
  refine ⟨_, declaration ++ "\n" ++ functions, (generate_eq_ok_iff _).2
    ⟨_, [fragment], [declaration ++ "\n" ++ functions], hr, ?_, ?_, rfl⟩, rfl⟩
  · exact .cons ((enumPiece_eq_ok_iff rfl hr _ _).2 hfragment) .nil
  · rw [hrecords]
    exact .cons ((tablePiece_eq_ok_iff rfl rfl hr _ _).2
      ⟨declaration, functions, hdeclaration, hfunctions, rfl⟩) .nil

/-- An enumeration with an ordinary name. -/
def mood : Enumeration where
  schema := "public"
  name := "mood"
  dbType := "mood"
  labels := ["calm"]

theorem ofEnumeration_mood :
    EnumModel.ofEnumeration mood =
      { name := "Mood"
        nullableName := "NullMood"
        source := mood
        values := [{
          typeName := "Mood"
          name := "Mood_Calm"
          variant := "Calm"
          value := "calm" }] } := by
  decide

/-- The piece for the enumeration when it is formatted, by its lines. -/
def moodLines : List String := [
  "/// Mood represents public.mood",
  "#[derive(Debug, Clone, Copy, PartialEq, Eq, Hash, ToSql, FromSql)]",
  "#[postgres(name = \"mood\")]", "pub enum Mood \x7b", "    /// Mood_Calm",
  "    #[postgres(name = \"calm\")]", "    Calm,", "\x7d", "/// Nullable Mood",
  "pub type NullMood = Option<Mood>;", "impl Mood \x7b",
  "    /// Label as stored in the database",
  "    pub const fn as_str(&self) -> &'static str \x7b", "        match *self \x7b",
  "            Self::Calm => \"calm\",", "        \x7d", "    \x7d", "\x7d", ""]

/-- An enumeration whose name breaks the comment that it stands in. What follows opens a comment
that a label closes. -/
def brokenMood : Enumeration where
  schema := "public"
  name := "x\n/*"
  dbType := "mood"
  labels := ["*/ mod a \x7b mod b \x7b mod c \x7b //"]

theorem ofEnumeration_brokenMood :
    EnumModel.ofEnumeration brokenMood =
      { name := "X___"
        nullableName := "NullX___"
        source := brokenMood
        values := [{
          typeName := "X___"
          name := "X______ModA_ModB_ModC___"
          variant := "__ModA_ModB_ModC___"
          value := "*/ mod a \x7b mod b \x7b mod c \x7b //" }] } := by
  decide

/-- What is left of its piece when it is formatted, by its lines. -/
def brokenLines : List String := [
  "/// X___ represents public.x", "mod a \x7b", "    mod b \x7b", "        mod c \x7b\x7d",
  "    \x7d", "\x7d", ""]

theorem format_enumText_moods :
    Source.format (formattingConfig.enumText (.ofEnumeration mood))
      = some ("\n".intercalate moodLines)
    ∧ Source.format (formattingConfig.enumText (.ofEnumeration brokenMood))
      = some ("\n".intercalate brokenLines) := by
  have hname : stringLiteral "mood" = "\"mood\"" := by decide +kernel
  have hlabel : stringLiteral "calm" = "\"calm\"" := by decide +kernel
  have hbrokenName : stringLiteral "x\n/*" = "\"x\\n/*\"" := by decide +kernel
  have hbrokenLabel : stringLiteral "*/ mod a \x7b mod b \x7b mod c \x7b //"
      = "\"*/ mod a \x7b mod b \x7b mod c \x7b //\"" := by decide +kernel
  -- the longest texts are given by their characters, which is cheaper to check
  have hderive := toList_eq_of_eq_ofList (rfl :
    "#[derive(Debug, Clone, Copy, PartialEq, Eq, Hash, ToSql, FromSql)]" = String.ofList _)
  have hfunction := toList_eq_of_eq_ofList (rfl :
    "    pub const fn as_str(&self) -> &'static str \x7b" = String.ofList _)
  rw [format_eq_formatChars, format_eq_formatChars, ofEnumeration_mood, ofEnumeration_brokenMood]
  simp only [enumText, enumLines, enumDeclarationLines, nullableLines, labelFunctionLines, mood,
    brokenMood, deprecation, formattingConfig, stringConfig, List.contains_nil, List.cons_append,
    List.nil_append, sourceText_cons_cons, sourceText_singleton, List.flatMap_cons,
    List.flatMap_nil, List.append_nil, List.map_cons, List.map_nil, Bool.false_eq_true, if_false,
    SourceLine.text_code, SourceLine.text_fixed, SourceLine.text_comment, SourceLine.text_blank,
    CodeLine.text_databaseName, CodeLine.text_enumHead, CodeLine.text_variant,
    CodeLine.text_nullable, CodeLine.text_implHead, CodeLine.text_label, hname, hlabel,
    hbrokenName, hbrokenLabel, indentation_toList, List.replicate, String.toList_append, hderive,
    hfunction, String.reduceToList]
  refine ⟨format_eq_some ?_, format_eq_some ?_⟩
  · rw [Source.fileLayout, String.toList_ofList, String.toList_intercalate]
    decide +kernel
  · rw [Source.fileLayout, String.toList_ofList, String.toList_intercalate]
    decide +kernel

theorem declaresEnumeration_moodLines :
    DeclaresEnumeration ("\n".intercalate moodLines) "Mood" "NullMood" := by
  have hlines : codeLines ("\n".intercalate moodLines) = moodLines.flatMap codeLines :=
    codeLines_intercalate (List.cons_ne_nil _ _)
  constructor
  · rw [hlines]
    have hhead : "pub enum Mood \x7b" ∈ codeLines "pub enum Mood \x7b" := by decide
    exact ⟨_, List.mem_flatMap.2 ⟨_, by decide, hhead⟩, "", by decide⟩
  · refine ⟨(moodLines.take 9).flatMap codeLines, "pub type NullMood = Option<Mood>;", [],
      (moodLines.drop 10).flatMap codeLines, ?_, ⟨"Mood>;", by decide⟩, .inl (by decide)⟩
    have hline : codeLines "pub type NullMood = Option<Mood>;"
        = ["pub type NullMood = Option<Mood>;"] := by decide
    have hsplit : moodLines
        = moodLines.take 9 ++ "pub type NullMood = Option<Mood>;" :: moodLines.drop 10 := rfl
    rw [hlines]
    conv_lhs => rw [hsplit]
    rw [List.flatMap_append, List.flatMap_cons, hline, List.append_assoc]

/-! ## Types of fields in a file -/

variable {c : Config} {s : Schema}

/-- Formatting, if pieces are formatted, keeps what the text for an enumeration declares. -/
def KeepsDeclaration (c : Config) (formatter : Formatter) (m : EnumModel) : Prop :=
  c.format = true → ∀ formatted, formatter (c.enumText m) = some formatted →
    DeclaresEnumeration (c.enumText m) m.name m.nullableName →
      DeclaresEnumeration formatted m.name m.nullableName

/-- The piece for an enumeration declares it, if the names that stand in its comment have no line
breaks and formatting keeps the declaration. -/
theorem declaresEnumeration_piece {formatter : Formatter} {e : Enumeration} {piece : String}
    (hpiece : c.pieceFormatter formatter (c.enumText (.ofEnumeration e)) = some piece)
    (hschema : IsOneLine e.schema) (hname : IsOneLine e.name)
    (hkeeps : c.KeepsDeclaration formatter (.ofEnumeration e)) :
    DeclaresEnumeration piece (EnumModel.ofEnumeration e).name
      (EnumModel.ofEnumeration e).nullableName := by
  have htext := declaresEnumeration_enumText (c := c) hschema hname
  rw [pieceFormatter] at hpiece
  cases hformat : c.format with
  | true =>
    rw [hformat, if_pos rfl] at hpiece
    exact hkeeps hformat piece hpiece htext
  | false =>
    rw [hformat, if_neg Bool.false_ne_true] at hpiece
    exact Option.some.inj hpiece ▸ htext

/-- In a generated file the type of each field comes from the first configured rule that covers the
type of the column, from the fallback if no rule covers it, or from an enumeration if no configured
rule does; then it is the name of the enumeration if the column is never null, and else the one for
columns that may be null. Each enumeration has its piece in the file, which declares both names if
those in its comment have no line breaks and formatting keeps them. Without pieces for enumerations,
types come from the configured rules alone. -/
theorem fieldTypes_generate {helpers : Helpers} {formatter : Formatter} {out : String}
    (henum : c.customEnum = none) (hout : c.generate helpers formatter s = .ok out) :
    ∃ fragments tables, out = c.header s ++ "\n".intercalate (fragments ++ tables)
      ∧ List.Forall₂ (fun e fragment =>
          c.pieceFormatter formatter (c.enumText (.ofEnumeration e)) = some fragment
            ∧ (IsOneLine e.schema → IsOneLine e.name →
              c.KeepsDeclaration formatter (.ofEnumeration e) →
                DeclaresEnumeration fragment (EnumModel.ofEnumeration e).name
                  (EnumModel.ofEnumeration e).nullableName)) (c.enumerations s) fragments
      ∧ (∀ r ∈ c.records s, ∀ f ∈ r.fields,
          TypeOrigin c.rules (c.allRules s) (c.enumModels s) f.column f.type)
      ∧ (c.includeEnums = false → ∀ r ∈ c.records s, ∀ f ∈ r.fields,
          f.type = c.rules.resolve f.column.dataType f.column.notNull) := by
  obtain ⟨r, fragments, tables, hr, hfragments, -, rfl⟩ := (generate_eq_ok_iff out).1 hout
  refine ⟨fragments, tables, rfl, ?_, ?_, ?_⟩
  · refine (List.forall₂_map_left_iff.1 hfragments).imp fun e fragment h => ?_
    have hpiece := (enumPiece_eq_ok_iff henum hr _ fragment).1 h
    exact ⟨hpiece, declaresEnumeration_piece hpiece⟩
  · refine forall_mem_records.2 fun t _ => List.forall_mem_map.2 fun column _ => ?_
    exact typeOrigin_resolve c.rules (c.enumModels s) column
  · intro hoff
    have hrules : c.allRules s = c.rules := by
      rw [allRules, enumerations, hoff]
      rfl
    refine forall_mem_records.2 fun t _ => List.forall_mem_map.2 fun column _ => ?_
    rw [← hrules]
    rfl

/-- In a formatted file the column gets the type that the piece for the enumeration declares. -/
theorem fieldTypes_generate_mood :
    IsOneLine mood.schema ∧ IsOneLine mood.name
    ∧ formattingConfig.KeepsDeclaration Source.format (.ofEnumeration mood)
    ∧ ∃ out fragment tables,
        formattingConfig.generate {} Source.format (moodSchema mood) = .ok out
      ∧ out = formattingConfig.header (moodSchema mood) ++ "\n".intercalate (fragment :: tables)
      ∧ DeclaresEnumeration fragment "Mood" "NullMood"
      ∧ (formattingConfig.records (moodSchema mood)).flatMap (·.fields.map (·.type))
        = ["Mood"] := by
  have hrecords : formattingConfig.records (moodSchema mood) = [moodRecord "Mood"] := by
    decide +kernel
  have hschema : IsOneLine mood.schema := by decide
  have hname : IsOneLine mood.name := by decide
  have hmood : (EnumModel.ofEnumeration mood).name = "Mood"
      ∧ (EnumModel.ofEnumeration mood).nullableName = "NullMood" := by
    rw [ofEnumeration_mood]
    exact ⟨rfl, rfl⟩
  have hkeeps : formattingConfig.KeepsDeclaration Source.format (.ofEnumeration mood) := by
    intro _ formatted hformatted _
    have heq : formatted = "\n".intercalate moodLines :=
      Option.some.inj (hformatted.symm.trans format_enumText_moods.1)
    rw [heq, hmood.1, hmood.2]
    exact declaresEnumeration_moodLines
  obtain ⟨out, _, hgenerate, -⟩ := exists_generate_moodSchema List.mem_cons_self hrecords
    format_enumText_moods.1
  obtain ⟨fragments, tables, hout, hall, -⟩ := fieldTypes_generate rfl hgenerate
  obtain ⟨fragment, rest, hfragment, hrest, rfl⟩ := List.forall₂_cons_left_iff.1 hall
  rw [List.forall₂_nil_left_iff.1 hrest] at hout
  refine ⟨hschema, hname, hkeeps, out, fragment, tables, hgenerate, hout, ?_,
    by rw [hrecords]; rfl⟩
  exact hmood.1 ▸ hmood.2 ▸ hfragment.2 hschema hname hkeeps

/-- The type of a field is that of an enumeration whose piece declares nothing. -/
theorem fieldType_undeclared :
    formattingConfig.rules.ruleFor? "mood" = none
    ∧ (formattingConfig.records (moodSchema brokenMood)).flatMap (·.fields.map (·.type)) = ["X___"]
    ∧ ∃ out table, formattingConfig.generate {} Source.format (moodSchema brokenMood) = .ok out
      ∧ out = formattingConfig.header (moodSchema brokenMood)
        ++ "\n".intercalate ["\n".intercalate brokenLines, table]
      ∧ ¬ DeclaresEnumeration ("\n".intercalate brokenLines) "X___" "NullX___" := by
  have hrecords : formattingConfig.records (moodSchema brokenMood) = [moodRecord "X___"] := by
    decide +kernel
  obtain ⟨out, table, hgenerate, hout⟩ := exists_generate_moodSchema
    (List.mem_cons_of_mem _ List.mem_cons_self) hrecords format_enumText_moods.2
  refine ⟨rfl, by rw [hrecords]; rfl, out, table, hgenerate, hout, ?_⟩
  have hlines : codeLines ("\n".intercalate brokenLines) = brokenLines.flatMap codeLines :=
    codeLines_intercalate (List.cons_ne_nil _ _)
  rintro ⟨⟨line, hline, rest, hrest⟩, -⟩
  have hnone : ∀ line ∈ brokenLines.flatMap codeLines,
      "pub enum ".toList.isPrefixOf line.toList = false := by decide +kernel
  have hprefix : "pub enum ".toList.isPrefixOf line.toList = true := by
    rw [hrest, List.isPrefixOf_iff_prefix, String.append_assoc, String.append_assoc,
      String.toList_append]
    exact List.prefix_append _ _
  rw [hlines] at hline
  rw [hnone line hline] at hprefix
  exact Bool.noConfusion hprefix

end Config

end Generation

end RowBindings
