import RowBindings.Proofs.Generation.DeclaredNames

/-!
# The marks of deprecated items

Names that are deprecated add marks to the file, each on a line of its own, and nothing else. How many
there are is said for each piece: one for every type and every function that it declares.
-/

namespace RowBindings.Generation

open Catalog Model Template Text TypeMap

/-! ## Marks in a text -/

/-- Whether a line is the mark of a deprecated item, blanks apart. -/
def isMark (line : List Char) : Bool :=
  Unicode.trim line == "#[deprecated]".toList

/-- The lines of a text without the marks. -/
def unmarkedLines (text : String) : List (List Char) :=
  (allLines text).filter fun line => !isMark line

/-- How many lines of a text are marks. -/
def markCount (text : String) : Nat :=
  (allLines text).countP isMark

/-! ## Lines with marks added -/

/-- The lines of a text as they are written. A line of source is several if there are line breaks in
it. -/
def writtenLines (ls : List SourceLine) : List (List Char) :=
  ls.flatMap fun l => allLines l.text

theorem allLines_sourceText {ls : List SourceLine} (hne : ls ≠ []) :
    allLines (sourceText ls) = writtenLines ls := by
  rw [sourceText, allLines_intercalate (mt List.map_eq_nil_iff.1 hne), List.flatMap_map]
  rfl

theorem writtenLines_append (before after : List SourceLine) :
    writtenLines (before ++ after) = writtenLines before ++ writtenLines after :=
  List.flatMap_append

/-- Lines are those at the base with so many marks added. -/
structure AddsMarks (count : Nat) (base ls : List SourceLine) : Prop where
  unmarked : ((writtenLines ls).filter fun line => !isMark line)
    = (writtenLines base).filter fun line => !isMark line
  count : (writtenLines ls).countP isMark = (writtenLines base).countP isMark + count

namespace AddsMarks

variable {count count' : Nat} {base base' ls ls' : List SourceLine}

theorem refl (ls : List SourceLine) : AddsMarks 0 ls ls where
  unmarked := rfl
  count := rfl

theorem append (h : AddsMarks count base ls) (h' : AddsMarks count' base' ls') :
    AddsMarks (count + count') (base ++ base') (ls ++ ls') where
  unmarked := by
    rw [writtenLines_append, writtenLines_append, List.filter_append, List.filter_append, h.unmarked,
      h'.unmarked]
  count := by
    rw [writtenLines_append, writtenLines_append, List.countP_append, List.countP_append, h.count,
      h'.count]
    omega

/-- Lines that have no marks added may follow. -/
theorem before (h : AddsMarks count base ls) (rest : List SourceLine) :
    AddsMarks count (base ++ rest) (ls ++ rest) :=
  h.append (refl rest)

/-- Lines that have no marks added may come first. -/
theorem after (h : AddsMarks count base ls) (rest : List SourceLine) :
    AddsMarks count (rest ++ base) (rest ++ ls) := by
  have hcount : 0 + count = count := Nat.zero_add count
  exact hcount ▸ (refl rest).append h

/-- Items have as many marks as they have one by one. -/
theorem flatMap {α : Type} {counts : α → Nat} {bases lines : α → List SourceLine}
    (total : List α → Nat) (hnil : total [] = 0)
    (hcons : ∀ item items, total (item :: items) = counts item + total items)
    (h : ∀ item, AddsMarks (counts item) (bases item) (lines item)) (items : List α) :
    AddsMarks (total items) (items.flatMap bases) (items.flatMap lines) := by
  induction items with
  | nil => exact hnil ▸ refl []
  | cons item items ih => exact hcons item items ▸ (h item).append ih

end AddsMarks

/-! ## Marks in the pieces -/

section Pieces

variable (m : EnumModel) (r : Record) (deprecated : Bool)

/-- The mark of an item is one, if there is one. -/
theorem addsMarks_deprecation {indent : String} (h : indent = "" ∨ indent = "    ") :
    AddsMarks deprecated.toNat (deprecation false indent) (deprecation deprecated indent) := by
  cases deprecated with
  | false => exact .refl []
  | true =>
    rcases h with rfl | rfl
    · exact ⟨by decide, by decide⟩
    · exact ⟨by decide, by decide⟩

theorem addsMarks_enumLines :
    AddsMarks (3 * deprecated.toNat) (enumLines m false) (enumLines m deprecated) := by
  -- in each part there are lines before the mark and after it, which are the same without it
  have hdeclaration : AddsMarks deprecated.toNat (enumDeclarationLines m false)
      (enumDeclarationLines m deprecated) :=
    ((((addsMarks_deprecation deprecated (.inl rfl)).after [_]).before _).before _).before _
  have hnullable : AddsMarks deprecated.toNat (nullableLines m false)
      (nullableLines m deprecated) :=
    ((addsMarks_deprecation deprecated (.inl rfl)).after [_]).before _
  have hfunction : AddsMarks deprecated.toNat (labelFunctionLines m false)
      (labelFunctionLines m deprecated) :=
    ((((addsMarks_deprecation deprecated (.inr rfl)).after _).before _).before _).before _
  have hcount : deprecated.toNat + deprecated.toNat + deprecated.toNat = 3 * deprecated.toNat := by
    omega
  exact hcount ▸ (hdeclaration.append hnullable).append hfunction

theorem addsMarks_recordLines :
    AddsMarks deprecated.toNat (recordLines r false) (recordLines r deprecated) :=
  ((((addsMarks_deprecation deprecated (.inl rfl)).after [_]).before _).before _).before _

theorem addsMarks_createLines :
    AddsMarks deprecated.toNat (createLines r false) (createLines r deprecated) :=
  ((((addsMarks_deprecation deprecated (.inr rfl)).after [_]).before _).before _).before _

theorem addsMarks_createUnlessConflictLines :
    AddsMarks deprecated.toNat (createUnlessConflictLines r false)
      (createUnlessConflictLines r deprecated) :=
  ((((addsMarks_deprecation deprecated (.inr rfl)).after _).before _).before _).before _

theorem addsMarks_selectLines (s : Statement.Select) :
    AddsMarks deprecated.toNat (selectLines r false s) (selectLines r deprecated s) :=
  ((((addsMarks_deprecation deprecated (.inr rfl)).after _).before _).before _).before _

/-- The functions for a record have a mark each; only a record with a key has the third. -/
theorem addsMarks_functionLines :
    AddsMarks ((2 + r.hasKey.toNat) * deprecated.toNat) (functionLines r false)
      (functionLines r deprecated) := by
  have hselect : AddsMarks (r.hasKey.toNat * deprecated.toNat)
      (r.select?.elim [] (selectLines r false)) (r.select?.elim [] (selectLines r deprecated)) := by
    cases hkey : r.hasKey with
    | true =>
      rw [Record.select?_of_hasKey hkey, Bool.toNat_true, Nat.one_mul]
      exact addsMarks_selectLines r deprecated _
    | false =>
      rw [Record.select?, hkey, Bool.toNat_false, Nat.zero_mul]
      exact .refl []
  have hcount : deprecated.toNat + deprecated.toNat + r.hasKey.toNat * deprecated.toNat
      = (2 + r.hasKey.toNat) * deprecated.toNat := by
    rw [Nat.add_mul, Nat.two_mul]
  exact hcount ▸ ((((addsMarks_createLines r deprecated).after [_]).append
    (addsMarks_createUnlessConflictLines r deprecated)).append hselect).before _

/-- The lines for a table: the record has a mark besides those of its functions. -/
theorem addsMarks_tableLines :
    AddsMarks ((3 + r.hasKey.toNat) * deprecated.toNat) (recordLines r false ++ functionLines r false)
      (recordLines r deprecated ++ functionLines r deprecated) := by
  have hcount : deprecated.toNat + (2 + r.hasKey.toNat) * deprecated.toNat
      = (3 + r.hasKey.toNat) * deprecated.toNat := by
    rw [Nat.add_mul, Nat.add_mul]
    omega
  exact hcount ▸ (addsMarks_recordLines r deprecated).append (addsMarks_functionLines r deprecated)

end Pieces

/-! ## Tables with a key -/

/-- Whether a table has a primary key. -/
def isKeyed (t : Table) : Bool :=
  t.columns.any (·.isPrimaryKey)

theorem hasKey_eq_isKeyed (rules : RuleSet) (policy : KeyPolicy) (t : Table) :
    (Record.ofTable rules policy t).hasKey = isKeyed t := by
  rw [Record.hasKey_ofTable, isKeyed, Bool.eq_iff_iff]
  simp [List.filter_eq_nil_iff]

/-- An item has so many marks if it is one of those that have marks. -/
theorem mul_countP_cons {α : Type} (count : Nat) (p : α → Bool) (item : α) (items : List α) :
    count * (item :: items).countP p = count * (p item).toNat + count * items.countP p := by
  rw [List.countP_cons]
  cases p item with
  | false => simp
  | true =>
    rw [if_pos rfl, Bool.toNat_true, Nat.mul_add]
    omega

/-- The marks for the tables that have any: four for each table with a key, three for each without
one. -/
def tableMarks (p : Table → Bool) (tables : List Table) : Nat :=
  3 * tables.countP (fun t => p t && !isKeyed t) + 4 * tables.countP fun t => p t && isKeyed t

theorem tableMarks_cons (p : Table → Bool) (t : Table) (tables : List Table) :
    tableMarks p (t :: tables) = (3 + (isKeyed t).toNat) * (p t).toNat + tableMarks p tables := by
  have hmarks : (3 + (isKeyed t).toNat) * (p t).toNat
      = 3 * (p t && !isKeyed t).toNat + 4 * (p t && isKeyed t).toNat := by
    cases p t with
    | false => rfl
    | true =>
      cases isKeyed t with
      | false => rfl
      | true => rfl
  rw [tableMarks, mul_countP_cons, mul_countP_cons, hmarks, tableMarks]
  omega

/-! ## Marks in the file -/

namespace Config

variable {c : Config} {formatter : Formatter}

/-- The marks that the pieces have for deprecated names. -/
def addedMarks (c : Config) (s : Schema) : Nat :=
  3 * (c.enumerations s).countP (fun e => c.deprecated.contains e.name)
  + tableMarks (fun t => c.deprecated.contains t.name) (c.tables s)

theorem flatten_pieceLines (s : Schema) :
    (c.pieceLines s).flatten
      = ((c.enumerations s).flatMap fun e =>
          enumLines (.ofEnumeration e) (c.deprecated.contains e.name))
        ++ (c.tables s).flatMap fun t =>
          recordLines (.ofTable (c.allRules s) c.keyPolicy t) (c.deprecated.contains t.name)
          ++ functionLines (.ofTable (c.allRules s) c.keyPolicy t)
            (c.deprecated.contains t.name) := by
  rw [pieceLines, List.flatten_append, ← List.flatMap_def, ← List.flatMap_def, enumModels,
    Model.enumModels, records, List.flatMap_map, List.flatMap_map]
  rfl

theorem addsMarks_pieceLines (s : Schema) :
    AddsMarks (c.addedMarks s) ({ c with deprecated := [] }.pieceLines s).flatten
      (c.pieceLines s).flatten := by
  have htable (t : Table) (deprecated : Bool) :
      let r := Record.ofTable (c.allRules s) c.keyPolicy t
      AddsMarks ((3 + (isKeyed t).toNat) * deprecated.toNat)
        (recordLines r false ++ functionLines r false)
        (recordLines r deprecated ++ functionLines r deprecated) :=
    hasKey_eq_isKeyed (c.allRules s) c.keyPolicy t ▸ addsMarks_tableLines _ deprecated
  rw [flatten_pieceLines, flatten_pieceLines]
  refine AddsMarks.append ?_ ?_
  · let isDeprecated (e : Enumeration) : Bool := c.deprecated.contains e.name
    exact .flatMap (fun enums => 3 * enums.countP isDeprecated) rfl (mul_countP_cons 3 isDeprecated)
      (fun e => addsMarks_enumLines (.ofEnumeration e) (isDeprecated e)) _
  · exact .flatMap (tableMarks fun t => c.deprecated.contains t.name) rfl
      (tableMarks_cons fun t => c.deprecated.contains t.name)
      (fun t => htable t (c.deprecated.contains t.name)) _

theorem addsMarks_fileLines (s : Schema) :
    AddsMarks (c.addedMarks s) ({ c with deprecated := [] }.fileLines s) (c.fileLines s) := by
  have hpieces := c.addsMarks_pieceLines s
  have hlength : ({ c with deprecated := [] }.pieceLines s).length = (c.pieceLines s).length := by
    simp only [pieceLines, List.length_append, List.length_map]
    rfl
  refine AddsMarks.after ?_ (c.headerLines s)
  -- a file without pieces ends in an empty line, whether there are deprecated names or not
  cases hnone : c.pieceLines s with
  | nil =>
    rw [hnone, List.length_nil, List.length_eq_zero_iff] at hlength
    rw [hnone, hlength] at hpieces
    rw [hlength]
    exact hpieces.before [.blank]
  | cons piece pieces =>
    rw [hnone] at hlength hpieces
    obtain ⟨piece', pieces', hbase⟩ := List.exists_cons_of_length_eq_add_one hlength
    rw [hbase] at hpieces ⊢
    exact hpieces

/-- Names that are not those of items in the file do not matter. -/
theorem generate_deprecated_congr (hplain : c.IsPlain formatter) {s : Schema} {names : List String}
    (hnames : ∀ name ∈ (c.enumerations s).map (·.name) ++ (c.tables s).map (·.name),
      name ∈ names ↔ name ∈ c.deprecated) :
    { c with deprecated := names }.generate {} formatter s = c.generate {} formatter s := by
  have hplain' : { c with deprecated := names }.IsPlain formatter :=
    ⟨hplain.custom, hplain.customEnum, hplain.formatter⟩
  have hcontains {name : String}
      (hname : name ∈ (c.enumerations s).map (·.name) ++ (c.tables s).map (·.name)) :
      names.contains name = c.deprecated.contains name := by
    rw [Bool.eq_iff_iff, List.contains_iff_mem, List.contains_iff_mem]
    exact hnames name hname
  have henums : (c.enumerations s).map { c with deprecated := names }.enumFragment
      = (c.enumerations s).map c.enumFragment := by
    refine List.map_congr_left fun e he => ?_
    have hsame := hcontains (List.mem_append_left _ (List.mem_map_of_mem he))
    rw [enumFragment, enumFragment, enumText, enumText]
    exact congrArg (fun deprecated => sourceText (enumLines (.ofEnumeration e) deprecated)) hsame
  have htables : (c.tables s).map ({ c with deprecated := names }.tableFragment (c.allRules s))
      = (c.tables s).map (c.tableFragment (c.allRules s)) := by
    refine List.map_congr_left fun t ht => ?_
    have hsame := hcontains (List.mem_append_right _ (List.mem_map_of_mem ht))
    rw [tableFragment, tableFragment, recordText, recordText, functionText, functionText]
    exact congrArg (fun deprecated =>
      sourceText (recordLines (.ofTable (c.allRules s) c.keyPolicy t) deprecated) ++ "\n"
        ++ sourceText (functionLines (.ofTable (c.allRules s) c.keyPolicy t) deprecated)) hsame
  rw [generate_eq_fragments hplain, ← henums, ← htables]
  exact generate_eq_fragments hplain' s

/-- Deprecated names add marks to the file and nothing else: without the marks it has the same lines
as the file where no name is deprecated. There are three more marks for each enumeration whose name is
deprecated, three for each table without a key and four for each with one. Names of nothing that is in
the file do not matter. -/
theorem generate_deprecated (hplain : c.IsPlain formatter) (s : Schema) :
    ∃ out base, c.generate {} formatter s = .ok out
      ∧ { c with deprecated := [] }.generate {} formatter s = .ok base
      ∧ unmarkedLines out = unmarkedLines base
      ∧ markCount out = markCount base
        + (3 * (c.enumerations s).countP (fun e => c.deprecated.contains e.name)
          + (3 * (c.tables s).countP (fun t => c.deprecated.contains t.name && !isKeyed t)
            + 4 * (c.tables s).countP fun t => c.deprecated.contains t.name && isKeyed t))
      ∧ ∀ names, (∀ name ∈ (c.enumerations s).map (·.name) ++ (c.tables s).map (·.name),
          name ∈ names ↔ name ∈ c.deprecated) →
        { c with deprecated := names }.generate {} formatter s = .ok out := by
  have hout : c.generate {} formatter s = .ok (sourceText (c.fileLines s)) :=
    generate_of_isPlain hplain
  have hbase : { c with deprecated := [] }.generate {} formatter s
      = .ok (sourceText ({ c with deprecated := [] }.fileLines s)) :=
    generate_of_isPlain ⟨hplain.custom, hplain.customEnum, hplain.formatter⟩
  have hmarks := c.addsMarks_fileLines s
  refine ⟨_, _, hout, hbase, ?_, ?_,
    fun names hnames => (generate_deprecated_congr hplain hnames).trans hout⟩
  · rw [unmarkedLines, unmarkedLines, allLines_sourceText fileLines_ne_nil,
      allLines_sourceText fileLines_ne_nil]
    exact hmarks.unmarked
  · rw [markCount, markCount, allLines_sourceText fileLines_ne_nil,
      allLines_sourceText fileLines_ne_nil]
    exact hmarks.count

/-- Two tables of which one has a key, and an enumeration. -/
def keyedSchema : Schema where
  name := "public"
  tables := [emptyTable "pets", { emptyTable "owners" with
    columns := [{
      ordinal := 1
      name := "id"
      dataType := "integer"
      ddlType := "integer"
      notNull := true
      defaultValue := none
      isPrimaryKey := true
      identity := .none }] }]
  enumerations := petSchema.enumerations

/-- Three marks for an enumeration and four for a table with a key; the other table has none. -/
theorem generate_deprecated_owners :
    ({ stringConfig with deprecated := ["mood", "owners"] } : Config).IsPlain .passthrough
    ∧ ∃ out base,
      { stringConfig with deprecated := ["mood", "owners"] }.generate {} .passthrough keyedSchema
        = .ok out
      ∧ stringConfig.generate {} .passthrough keyedSchema = .ok base
      ∧ unmarkedLines out = unmarkedLines base
      ∧ markCount out = markCount base + 7
      ∧ { stringConfig with deprecated := ["owners", "visits", "mood"] }.generate {} .passthrough
          keyedSchema = .ok out := by
  have hplain : ({ stringConfig with deprecated := ["mood", "owners"] } : Config).IsPlain
      .passthrough := ⟨rfl, rfl, rfl⟩
  obtain ⟨out, base, hout, hbase, hunmarked, hcount, hnames⟩ :=
    generate_deprecated hplain keyedSchema
  exact ⟨hplain, out, base, hout, hbase, hunmarked, hcount,
    hnames ["owners", "visits", "mood"] (by decide)⟩

end Config

end RowBindings.Generation
