import RowBindings.Proofs.Generation.Containment
import Mathlib.Data.List.Nodup
import Mathlib.Data.List.Perm.Basic

/-!
# The names that a generated file declares

A file declares a type for each table, and for each enumeration a type and a name for columns that
may be null. Names are made for each item apart from the others, so that they are distinct only if
converting the names of the database keeps them distinct.
-/

namespace RowBindings.Generation

open Catalog Model Template Text TypeMap

/-! ## Reading declarations -/

/-- What stands before the name that a line declares. -/
def declarationMarks : List String := ["pub struct ", "pub enum ", "pub type "]

/-- The name that a line declares, if it begins with a declaration. -/
def declaredName? (line : String) : Option String :=
  (declarationMarks.find? fun mark => mark.toList.isPrefixOf line.toList).map fun mark =>
    String.ofList ((line.toList.drop mark.toList.length).takeWhile Identifier.isIdentifierChar)

/-- The names that a text declares outside of any braces: those of the lines that begin with a
declaration, comments apart. -/
def declaredNames (text : String) : List String :=
  (codeLines text).filterMap declaredName?

theorem declaredName?_eq_none {line : String} (h : line.toList.head? ≠ some 'p') :
    declaredName? line = none := by
  have hmark : ∀ mark ∈ declarationMarks, mark.toList.head? = some 'p' := by decide
  rw [declaredName?, Option.map_eq_none_iff, List.find?_eq_none]
  intro mark hmem hprefix
  obtain ⟨rest, hrest⟩ := List.isPrefixOf_iff_prefix.1 hprefix
  refine h ?_
  rw [← hrest, List.head?_append, hmark mark hmem]
  rfl

theorem find?_declarationMarks {mark : String} (h : mark ∈ declarationMarks) (text : String) :
    declarationMarks.find? (fun other => other.toList.isPrefixOf (mark ++ text).toList)
      = some mark := by
  rw [String.toList_append]
  simp only [declarationMarks, List.mem_cons, List.not_mem_nil, or_false] at h
  rcases h with rfl | rfl | rfl
  · rfl
  · rfl
  · rfl

/-- The name is read up to the first character that no identifier has. -/
theorem declaredName?_append {mark name rest : String} (hmark : mark ∈ declarationMarks)
    (hname : ∀ c ∈ name.toList, Identifier.isIdentifierChar c = true)
    (hrest : rest.toList.head?.any Identifier.isIdentifierChar = false) :
    declaredName? (mark ++ (name ++ rest)) = some name := by
  have hend : rest.toList.takeWhile Identifier.isIdentifierChar = [] := by
    cases htext : rest.toList with
    | nil => rfl
    | cons c cs =>
      rw [htext, List.head?_cons, Option.any_some] at hrest
      exact List.takeWhile_cons_of_neg (Bool.not_eq_true _ ▸ hrest)
  rw [declaredName?, find?_declarationMarks hmark, Option.map_some, String.toList_append,
    List.drop_left, String.toList_append, List.takeWhile_append_of_pos hname, hend,
    List.append_nil, String.ofList_toList]

/-- A line of code declares what it is made to declare. -/
theorem declaredName?_codeLine {IsType : String → Prop} {line : CodeLine}
    (h : line.IsFilled IsType) : declaredName? line.text = line.declared? := by
  have hmark : "pub struct " ∈ declarationMarks ∧ "pub enum " ∈ declarationMarks
      ∧ "pub type " ∈ declarationMarks := by decide
  have hnone (hline : ∀ text, line ≠ .fixed text) (hdeclared : line.declared? = none) :
      declaredName? line.text = line.declared? := by
    rw [hdeclared]
    exact declaredName?_eq_none (head?_codeLine_ne hline (by decide) fun _ => hdeclared)
  cases line with
  | fixed text =>
    have hfixed : ∀ text ∈ fixedLines, declaredName? text = none := by decide +kernel
    exact hfixed text h
  | enumHead name =>
    rw [CodeLine.text_enumHead, String.append_assoc]
    exact declaredName?_append hmark.2.1 h.isIdentifierChar_of_mem (by decide)
  | recordHead name =>
    rw [CodeLine.text_recordHead, String.append_assoc]
    exact declaredName?_append hmark.1 h.isIdentifierChar_of_mem (by decide)
  | nullable synonym name =>
    simp only [CodeLine.text_nullable, String.append_assoc]
    refine declaredName?_append hmark.2.2 h.1.isIdentifierChar_of_mem ?_
    rw [String.toList_append]
    rfl
  | databaseName depth name => exact hnone (fun _ h => nomatch h) rfl
  | variant name => exact hnone (fun _ h => nomatch h) rfl
  | implHead name => exact hnone (fun _ h => nomatch h) rfl
  | label name value => exact hnone (fun _ h => nomatch h) rfl
  | field name type => exact hnone (fun _ h => nomatch h) rfl
  | statement sql => exact hnone (fun _ h => nomatch h) rfl
  | boundFields fields => exact hnone (fun _ h => nomatch h) rfl
  | boundKeys count => exact hnone (fun _ h => nomatch h) rfl
  | stored depth name position => exact hnone (fun _ h => nomatch h) rfl
  | keyParams types => exact hnone (fun _ h => nomatch h) rfl
  | filled name position => exact hnone (fun _ h => nomatch h) rfl

theorem declaredNames_append (before after : String) :
    declaredNames (before ++ "\n" ++ after) = declaredNames before ++ declaredNames after := by
  rw [declaredNames, codeLines_append, List.filterMap_append]
  rfl

/-- Pieces one after the other declare what each of them declares. -/
theorem declaredNames_intercalate (pieces : List String) :
    declaredNames ("\n".intercalate pieces) = pieces.flatMap declaredNames := by
  by_cases hpieces : pieces = []
  · rw [hpieces]
    rfl
  · rw [declaredNames, codeLines_intercalate hpieces, List.filterMap_flatMap]
    rfl

/-- Lines of which nothing is left but their code declare what their code declares. -/
theorem declaredNames_sourceText {IsType : String → Prop} {ls : List SourceLine}
    (htypes : ∀ type, IsType type → IsOneLine type) (hne : ls ≠ [])
    (hfilled : AllCode (CodeLine.IsFilled IsType) ls)
    (hcomments : ∀ text ∈ commentsOf ls, codeLines text = []) :
    declaredNames (sourceText ls) = (codeOf ls).filterMap CodeLine.declared? := by
  rw [declaredNames, (codeLines_sourceText_eq_iff htypes hne hfilled).2 hcomments,
    List.filterMap_map]
  exact List.filterMap_congr fun line hline => declaredName?_codeLine (hfilled line hline)

/-! ## What the pieces declare -/

/-- A line of code that declares no name. -/
def CodeLine.DeclaresNothing (line : CodeLine) : Prop :=
  line.declared? = none

section Pieces

variable (deprecated : Bool)

theorem declared?_deprecation (indent : String) :
    AllCode CodeLine.DeclaresNothing (deprecation deprecated indent) := by
  cases deprecated with
  | false => exact allCode_nil
  | true => exact (allCode_fixed _ _).2 ⟨rfl, allCode_nil⟩

theorem filterMap_declared?_eq_nil {ls : List SourceLine}
    (h : AllCode CodeLine.DeclaresNothing ls) :
    (codeOf ls).filterMap CodeLine.declared? = [] :=
  List.filterMap_eq_nil_iff.2 h

/-- A record declares its name. -/
theorem declared_recordLines (r : Record) :
    (codeOf (recordLines r deprecated)).filterMap CodeLine.declared? = [r.name] := by
  have hmark := filterMap_declared?_eq_nil (declared?_deprecation deprecated "")
  simp [recordLines, hmark, CodeLine.declared?, List.filterMap_flatMap, List.filterMap_cons]

/-- An enumeration declares its name and the one for columns that may be null. -/
theorem declared_enumLines (m : EnumModel) :
    (codeOf (enumLines m deprecated)).filterMap CodeLine.declared? = [m.name, m.nullableName] := by
  have hmark (indent : String) :=
    filterMap_declared?_eq_nil (declared?_deprecation deprecated indent)
  have hvariants : (m.values.flatMap fun _ => ([] : List String)) = [] :=
    List.flatMap_eq_nil_iff.2 fun _ _ => rfl
  have hlabels : m.values.filterMap
      (CodeLine.declared? ∘ fun v => .label v.variant v.value) = [] :=
    List.filterMap_eq_nil_iff.2 fun _ _ => rfl
  simp [enumLines, enumDeclarationLines, nullableLines, labelFunctionLines, hmark, hvariants,
    hlabels, CodeLine.declared?, List.filterMap_flatMap, List.filterMap_cons]

/-- The functions for a record declare nothing outside of its braces. -/
theorem declared_functionLines (r : Record) :
    (codeOf (functionLines r deprecated)).filterMap CodeLine.declared? = [] := by
  have hmark := declared?_deprecation deprecated "    "
  have hinsertion (onConflict : Statement.OnConflict) :
      AllCode CodeLine.DeclaresNothing (insertionLines r onConflict) := by
    simp [insertionLines, CodeLine.DeclaresNothing, CodeLine.declared?]
  have hstored (depth : Nat) :
      AllCode CodeLine.DeclaresNothing (storedLines depth r) :=
    (allCode_map _ _).2 fun _ _ => rfl
  have hcreate : AllCode CodeLine.DeclaresNothing (createLines r deprecated) := by
    cases hgenerated : r.key.isGenerated with
    | true =>
      simp [createLines, hgenerated, CodeLine.DeclaresNothing, CodeLine.declared?, hmark,
        hinsertion, hstored]
    | false =>
      simp [createLines, hgenerated, CodeLine.DeclaresNothing, CodeLine.declared?, hmark,
        hinsertion]
  have hunless : AllCode CodeLine.DeclaresNothing
      (createUnlessConflictLines r deprecated) := by
    cases hgenerated : r.key.isGenerated with
    | true =>
      simp [createUnlessConflictLines, hgenerated, CodeLine.DeclaresNothing, CodeLine.declared?,
        hmark, hinsertion, hstored]
    | false =>
      simp [createUnlessConflictLines, hgenerated, CodeLine.DeclaresNothing, CodeLine.declared?,
        hmark, hinsertion]
  have hselect : AllCode CodeLine.DeclaresNothing
      (r.select?.elim [] (selectLines r deprecated)) := by
    cases r.select? with
    | none => exact allCode_nil
    | some s => simp [selectLines, CodeLine.DeclaresNothing, CodeLine.declared?, hmark]
  refine filterMap_declared?_eq_nil ?_
  simp [functionLines, CodeLine.DeclaresNothing, CodeLine.declared?, hcreate, hunless, hselect]

end Pieces

/-! ## What the file declares -/

/-- What is made of the results of each item is what is made of the items. -/
theorem flatMap_eq_of_forall₂ {α β γ : Type} {R : α → β → Prop} {f : α → List γ} {g : β → List γ}
    {items : List α} {results : List β} (h : List.Forall₂ R items results)
    (hfg : ∀ item ∈ items, ∀ result, R item result → g result = f item) :
    results.flatMap g = items.flatMap f := by
  induction h with
  | nil => rfl
  | cons hfirst _ ih =>
    obtain ⟨hitem, hitems⟩ := List.forall_mem_cons.1 hfg
    rw [List.flatMap_cons, List.flatMap_cons, hitem _ hfirst, ih hitems]

/-- Names together with those for columns that may be null and with others are distinct if the names
are, the others are, and none of either is a name for columns that may be null. -/
theorem nodup_nullable_append_iff (names others : List String) :
    ((names.flatMap fun n => [n, nullableName n]) ++ others).Nodup
      ↔ names.Nodup ∧ others.Nodup ∧ (∀ n ∈ names, n ∉ others)
        ∧ ∀ n ∈ names, nullableName n ∉ names ∧ nullableName n ∉ others := by
  have hinjective : Function.Injective nullableName := by
    intro a b h
    have htext := congrArg String.toList h
    rw [nullableName, nullableName, String.toList_append, String.toList_append] at htext
    exact String.toList_inj.1 (List.append_cancel_left htext)
  have hperm : (names ++ names.map nullableName).Perm
      (names.flatMap fun n => [n, nullableName n]) := by
    have h := List.flatMap_append_perm names (fun n => [n]) (fun n => [nullableName n])
    rw [← List.map_eq_flatMap, ← List.map_eq_flatMap, List.map_id'] at h
    exact h
  rw [← (hperm.append_right others).nodup_iff, List.nodup_append, List.nodup_append,
    List.nodup_map_iff hinjective]
  constructor
  · rintro ⟨⟨hnames, -, hnullable⟩, hothers, hdisjoint⟩
    refine ⟨hnames, hothers, fun n hn hother => ?_, fun n hn => ⟨fun hname => ?_, fun hother => ?_⟩⟩
    · exact hdisjoint n (List.mem_append_left _ hn) n hother rfl
    · exact hnullable _ hname _ (List.mem_map_of_mem hn) rfl
    · exact hdisjoint _ (List.mem_append_right _ (List.mem_map_of_mem hn)) _ hother rfl
  · rintro ⟨hnames, hothers, hdisjoint, hnullable⟩
    refine ⟨⟨hnames, hnames, ?_⟩, hothers, ?_⟩
    · rintro n hn _ hmem rfl
      obtain ⟨m, hm, hmn⟩ := List.mem_map.1 hmem
      exact (hnullable m hm).1 (hmn ▸ hn)
    · rintro n hn _ hother rfl
      rcases List.mem_append.1 hn with hn | hn
      · exact hdisjoint n hn hother
      · obtain ⟨m, hm, rfl⟩ := List.mem_map.1 hn
        exact (hnullable m hm).2 hother

namespace Config

variable {c : Config} {s : Schema}

/-- The names of the types for enumerations. -/
def enumTypeNames (c : Config) (s : Schema) : List String :=
  (c.enumerations s).map fun e => Identifier.typeName e.name

/-- The names of the types for tables. -/
def tableTypeNames (c : Config) (s : Schema) : List String :=
  (c.tables s).map fun t => Identifier.typeName t.name

/-- The names that the pieces declare. -/
def declared (c : Config) (s : Schema) : List String :=
  (c.enumTypeNames s).flatMap (fun n => [n, nullableName n]) ++ c.tableTypeNames s

/-- The texts of the pieces, before they are formatted. -/
def pieceTexts (c : Config) (s : Schema) : List String :=
  (c.enumModels s).map c.enumText
    ++ (c.records s).flatMap fun r => [c.recordText r, c.functionText r]

section File

variable (htypes : ∀ type ∈ c.columnTypes s, IsOneLine type)
  (hcomments : ∀ text ∈ commentsOf (c.fileLines s), codeLines text = [])

include htypes hcomments

theorem declaredNames_header (rest : String) :
    declaredNames (c.header s ++ rest) = declaredNames rest := by
  have hdeclared : (codeOf (c.headerLines s)).filterMap CodeLine.declared? = [] := by
    have himports : AllCode CodeLine.DeclaresNothing ((c.imports s).map .fixed) :=
      (allCode_map (c.imports s) CodeLine.fixed).2 fun _ _ => rfl
    refine filterMap_declared?_eq_nil ?_
    rw [headerLines]
    split
    · simp [CodeLine.DeclaresNothing, CodeLine.declared?]
    · simp [CodeLine.DeclaresNothing, CodeLine.declared?, himports]
  have hne : c.headerLines s ≠ [] := List.cons_ne_nil _ _
  rw [header_eq_blockText, ← sourceText_newline hne, declaredNames_append,
    declaredNames_sourceText htypes hne allCode_headerLines
      (forall_mem_commentsOf_fileLines.1 hcomments).1, hdeclared, List.nil_append]

/-- The text for an enumeration declares its name and the one for columns that may be null. -/
theorem declaredNames_enumText {m : EnumModel} (hm : m ∈ c.enumModels s) :
    declaredNames (c.enumText m) = [m.name, m.nullableName] := by
  have hpiece : enumLines m (c.deprecated.contains m.source.name) ∈ c.pieceLines s :=
    List.mem_append_left _ (List.mem_map_of_mem hm)
  rw [enumText, declaredNames_sourceText htypes (pieceLines_ne_nil hpiece)
    (allCode_pieceLines _ hpiece) ((forall_mem_commentsOf_fileLines.1 hcomments).2 _ hpiece),
    declared_enumLines]

/-- The text for a table declares the name of the record. -/
theorem declaredNames_tableText {r : Record} (hr : r ∈ c.records s) :
    declaredNames (c.recordText r) = [r.name] ∧ declaredNames (c.functionText r) = [] := by
  have hpiece : recordLines r (c.deprecated.contains r.table.name)
      ++ functionLines r (c.deprecated.contains r.table.name) ∈ c.pieceLines s :=
    List.mem_append_right _ (List.mem_map_of_mem hr)
  obtain ⟨hrecord, hfunctions⟩ := (allCode_append _ _).1 (allCode_pieceLines _ hpiece)
  have hall := (forall_mem_commentsOf_fileLines.1 hcomments).2 _ hpiece
  rw [commentsOf_append] at hall
  obtain ⟨hrecordComments, hfunctionComments⟩ := List.forall_mem_append.1 hall
  rw [recordText, functionText,
    declaredNames_sourceText htypes (recordLines_ne_nil _ _) hrecord hrecordComments,
    declaredNames_sourceText htypes (functionLines_ne_nil _ _) hfunctions hfunctionComments,
    declared_recordLines, declared_functionLines]
  exact ⟨rfl, rfl⟩

/-- A formatter that keeps the names that the pieces declare leaves the file with just these. -/
theorem declaredNames_generate {formatter : Formatter} {out : String} (hcustom : c.custom = none)
    (henum : c.customEnum = none)
    (hformat : ∀ text ∈ c.pieceTexts s, ∀ formatted,
      c.pieceFormatter formatter text = some formatted →
        declaredNames formatted = declaredNames text)
    (hout : c.generate {} formatter s = .ok out) : declaredNames out = c.declared s := by
  obtain ⟨r, enums, tables, hr, henums, htables, rfl⟩ := (generate_eq_ok_iff out).1 hout
  have henumNames : enums.flatMap declaredNames
      = (c.enumModels s).flatMap fun m => [m.name, m.nullableName] := by
    refine flatMap_eq_of_forall₂ henums fun m hm piece hpiece => ?_
    have htext : c.enumText m ∈ c.pieceTexts s :=
      List.mem_append_left _ (List.mem_map_of_mem hm)
    rw [hformat _ htext _ ((enumPiece_eq_ok_iff henum hr m piece).1 hpiece)]
    exact declaredNames_enumText htypes hcomments hm
  have htableNames : tables.flatMap declaredNames = (c.records s).flatMap fun r => [r.name] := by
    refine flatMap_eq_of_forall₂ htables fun record hrecord piece hpiece => ?_
    obtain ⟨declaration, functions, hdeclaration, hfunctions, rfl⟩ :=
      (tablePiece_eq_ok_iff hcustom henum hr record piece).1 hpiece
    have htexts : ∀ text ∈ [c.recordText record, c.functionText record], text ∈ c.pieceTexts s :=
      fun text htext => List.mem_append_right _ (List.mem_flatMap.2 ⟨record, hrecord, htext⟩)
    obtain ⟨hrecordText, hfunctionText⟩ := List.forall_mem_cons.1 htexts
    obtain ⟨hrecordNames, hfunctionNames⟩ := declaredNames_tableText htypes hcomments hrecord
    rw [declaredNames_append, hformat _ hrecordText _ hdeclaration,
      hformat _ (List.forall_mem_singleton.1 hfunctionText) _ hfunctions, hrecordNames,
      hfunctionNames, List.append_nil]
  rw [declaredNames_header htypes hcomments, declaredNames_intercalate, List.flatMap_append,
    henumNames, htableNames, declared, enumTypeNames, tableTypeNames, List.flatMap_map,
    ← List.map_eq_flatMap]
  exact congrArg₂ (· ++ ·) (List.flatMap_map _ _ _) List.map_map

end File

/-- The names that a generated file declares are just those of the types for its tables and
enumerations and those for columns that may be null, and they are distinct if and only if converting
the names of the database keeps them distinct: no two tables, no two enumerations and no table and
enumeration get the same name, and none gets that of an enumeration with `Null` before it. It does
not matter that the names in the database are distinct. Neither a comment nor a type may break its
line, and the formatter has to keep the names that pieces declare. -/
theorem nodup_declaredNames_iff {formatter : Formatter} {out : String} (hcustom : c.custom = none)
    (henum : c.customEnum = none) (htypes : ∀ type ∈ c.columnTypes s, IsOneLine type)
    (hcomments : ∀ text ∈ commentsOf (c.fileLines s), codeLines text = [])
    (hformat : ∀ text ∈ c.pieceTexts s, ∀ formatted,
      c.pieceFormatter formatter text = some formatted →
        declaredNames formatted = declaredNames text)
    (hout : c.generate {} formatter s = .ok out) :
    declaredNames out = c.declared s
      ∧ ((declaredNames out).Nodup
        ↔ (c.enumTypeNames s).Nodup ∧ (c.tableTypeNames s).Nodup
          ∧ (∀ n ∈ c.enumTypeNames s, n ∉ c.tableTypeNames s)
          ∧ ∀ n ∈ c.enumTypeNames s,
            nullableName n ∉ c.enumTypeNames s ∧ nullableName n ∉ c.tableTypeNames s) := by
  have hdeclared := declaredNames_generate htypes hcomments hcustom henum hformat hout
  rw [hdeclared]
  exact ⟨rfl, nodup_nullable_append_iff _ _⟩

/-- A table of the given name without columns. -/
def emptyTable (name : String) : Table where
  schema := "public"
  name := name
  kind := "r"
  columns := []

/-- Two tables and an enumeration whose names stay apart. -/
def petSchema : Schema where
  name := "public"
  tables := [emptyTable "pets", emptyTable "pet_owners"]
  enumerations := [{ schema := "public", name := "mood", dbType := "mood", labels := ["calm"] }]

theorem nodup_declaredNames_pets :
    (∀ type ∈ stringConfig.columnTypes petSchema, IsOneLine type)
    ∧ (∀ text ∈ commentsOf (stringConfig.fileLines petSchema), codeLines text = [])
    ∧ ∃ out, stringConfig.generate {} .passthrough petSchema = .ok out
      ∧ declaredNames out = ["Mood", "NullMood", "Pets", "PetOwners"]
      ∧ (declaredNames out).Nodup := by
  have hplain : stringConfig.IsPlain .passthrough := ⟨rfl, rfl, rfl⟩
  have htypes : ∀ type ∈ stringConfig.columnTypes petSchema, IsOneLine type := by decide +kernel
  have hnames : ∀ name ∈ stringConfig.rawNames petSchema, IsOneLine name := by decide +kernel
  have hcomments : ∀ text ∈ commentsOf (stringConfig.fileLines petSchema), codeLines text = [] :=
    fun text htext => codeLines_of_isCommentLine (isCommentLine_fileLines hnames text htext)
  obtain ⟨hdeclared, hnodup⟩ := nodup_declaredNames_iff rfl rfl htypes hcomments
    (fun text _ formatted h => congrArg declaredNames (Option.some.inj h).symm)
    (generate_of_isPlain hplain)
  refine ⟨htypes, hcomments, _, generate_of_isPlain hplain, hdeclared.trans ?_, hnodup.2 ?_⟩
  · decide +kernel
  · decide +kernel

/-- Two tables whose names become one. -/
def userSchema : Schema where
  name := "public"
  tables := [emptyTable "user_a", emptyTable "userA"]
  enumerations := []

/-- Tables of distinct names are declared by the same name. -/
theorem declaredNames_coincide :
    (userSchema.tables.map (·.name) ++ userSchema.enumerations.map (·.name)).Nodup
    ∧ ∃ out, stringConfig.generate {} .passthrough userSchema = .ok out
      ∧ declaredNames out = ["UserA", "UserA"] := by
  have hplain : stringConfig.IsPlain .passthrough := ⟨rfl, rfl, rfl⟩
  have htypes : ∀ type ∈ stringConfig.columnTypes userSchema, IsOneLine type := by decide +kernel
  have hnames : ∀ name ∈ stringConfig.rawNames userSchema, IsOneLine name := by decide +kernel
  have hdeclared := declaredNames_generate htypes
    (fun text htext => codeLines_of_isCommentLine (isCommentLine_fileLines hnames text htext))
    rfl rfl (fun text _ formatted h => congrArg declaredNames (Option.some.inj h).symm)
    (generate_of_isPlain hplain)
  refine ⟨by decide +kernel, _, generate_of_isPlain hplain, hdeclared.trans ?_⟩
  decide +kernel

end Config

end RowBindings.Generation
