import RowBindings.Proofs.Generation.Calls
import RowBindings.Proofs.Generation.Containment
import RowBindings.Proofs.Model.Variants

/-!
# Enumerations read back from their source

What the generated source says about an enumeration, read from its text: the name it has in the
database, the name that each variant has there, and the label that the function for labels gives for
each variant. Literals are read by the escape rules, comments are left out, and lines are told apart
before anything in them is read.
-/

namespace RowBindings.Generation

open Catalog Model Template Text

/-! ## Reading an enumeration -/

/-- The literal of an attribute that names something in the database. -/
def readAttribute? (line : String) : Option String := do
  let after ← expectText? "#[postgres(name = ".toList (skipBlanks line.toList)
  let (name, after) ← readLiteral? after
  if after = ")]".toList then some (String.ofList name) else none

/-- The name of a variant. -/
def readVariant? (line : String) : Option String :=
  let cs := skipBlanks line.toList
  if cs.dropWhile Identifier.isIdentifierChar = [','] then
    some (String.ofList (cs.takeWhile Identifier.isIdentifierChar))
  else none

/-- The variants in the body of an enumeration, each after the literal of its attribute. -/
def readVariants? : List String → Option (List (String × String))
  | [] => some []
  | [_] => none
  | first :: second :: rest => do
    let name ← readAttribute? first
    let variant ← readVariant? second
    let others ← readVariants? rest
    return (name, variant) :: others

/-- The variant of an arm and the literal it gives. -/
def readArm? (line : String) : Option (String × String) := do
  let after ← expectText? "Self::".toList (skipBlanks line.toList)
  let variant := after.takeWhile Identifier.isIdentifierChar
  let after ← expectText? " => ".toList (after.dropWhile Identifier.isIdentifierChar)
  let (label, after) ← readLiteral? after
  if after = [','] then some (String.ofList variant, String.ofList label) else none

/-- The lines before the first one of a kind, and those after it. -/
def cutAt? (p : String → Bool) : List String → Option (List String × List String)
  | [] => none
  | line :: rest =>
    if p line then some ([], rest)
    else (cutAt? p rest).map fun (before, after) => (line :: before, after)

/-- What the source says about an enumeration. -/
structure EnumSource where
  databaseName : String
  /-- The literal of the attribute of each variant, with the variant. -/
  named : List (String × String)
  /-- The arms of the function for labels. -/
  arms : List (String × String)
  deriving DecidableEq, Repr

/-- The enumeration that a text declares, if it is laid out as one. -/
def readEnum? (text : String) : Option EnumSource := do
  let (before, after) ← cutAt? (fun line => "pub enum ".toList.isPrefixOf line.toList)
    (codeLines text)
  let databaseName ← before.getLast?.bind readAttribute?
  let (body, after) ← cutAt? (· == "\x7d") after
  let named ← readVariants? body
  let (_, after) ← cutAt? (· == "    pub const fn as_str(&self) -> &'static str \x7b") after
  let (_, after) ← cutAt? (· == "        match *self \x7b") after
  let (arms, _) ← cutAt? (· == "        \x7d") after
  let arms ← arms.mapM readArm?
  return { databaseName, named, arms }

/-- The label of a variant: that of the first arm for it. -/
def EnumSource.label? (source : EnumSource) (variant : String) : Option String :=
  source.arms.lookup variant

/-! ## Single lines -/

theorem skipBlanks_replicate (n : Nat) (cs : List Char) :
    skipBlanks (List.replicate n ' ' ++ cs) = skipBlanks cs := by
  induction n with
  | zero => rfl
  | succ n ih => exact ih

theorem skipBlanks_cons {c : Char} (hc : (c == ' ' || c == '\n') = false) (cs : List Char) :
    skipBlanks (c :: cs) = c :: cs :=
  List.dropWhile_cons_of_neg (Bool.eq_false_iff.1 hc)

theorem readAttribute?_text (depth : Nat) (name : String) :
    readAttribute? (CodeLine.databaseName depth name).text = some name := by
  have hline : skipBlanks (CodeLine.databaseName depth name).text.toList
      = "#[postgres(name = ".toList ++ (literal name.toList ++ ")]".toList) := by
    rw [CodeLine.text_databaseName, String.toList_append, String.toList_append,
      String.toList_append, indentation_toList, stringLiteral_toList, List.append_assoc,
      List.append_assoc, skipBlanks_replicate]
    exact skipBlanks_cons (by decide) _
  rw [readAttribute?, hline, expectText?_append, Option.bind_eq_bind, Option.bind_some,
    readLiteral?_literal]
  simp only [Option.bind_eq_bind, Option.bind_some, if_true, String.ofList_toList]

section Names

variable {name : String} (hname : IsConverted name)

include hname

theorem takeWhile_converted {c : Char} (hc : Identifier.isIdentifierChar c = false)
    (rest : List Char) :
    (name.toList ++ c :: rest).takeWhile Identifier.isIdentifierChar = name.toList := by
  rw [List.takeWhile_append_of_pos hname.isIdentifierChar_of_mem,
    List.takeWhile_cons_of_neg (Bool.eq_false_iff.1 hc), List.append_nil]

theorem dropWhile_converted {c : Char} (hc : Identifier.isIdentifierChar c = false)
    (rest : List Char) :
    (name.toList ++ c :: rest).dropWhile Identifier.isIdentifierChar = c :: rest := by
  rw [List.dropWhile_append_of_pos hname.isIdentifierChar_of_mem,
    List.dropWhile_cons_of_neg (Bool.eq_false_iff.1 hc)]

theorem readVariant?_text : readVariant? (CodeLine.variant name).text = some name := by
  have hline : skipBlanks (CodeLine.variant name).text.toList = name.toList ++ [','] := by
    have htext : (CodeLine.variant name).text.toList
        = List.replicate 4 ' ' ++ (name.toList ++ [',']) := by
      simp [CodeLine.text_variant, List.replicate]
    rw [htext, skipBlanks_replicate]
    cases hchars : name.toList with
    | nil => exact skipBlanks_cons (by decide) _
    | cons c cs =>
      have hblank : (c == ' ' || c == '\n') = false := by
        have hc := hname.isIdentifierChar_of_mem c (hchars ▸ List.mem_cons_self)
        rw [Bool.or_eq_false_iff, beq_eq_false_iff_ne, beq_eq_false_iff_ne]
        constructor
        · rintro rfl
          exact absurd hc (by decide)
        · rintro rfl
          exact absurd hc (by decide)
      exact skipBlanks_cons hblank _
  rw [readVariant?, hline, dropWhile_converted hname (by decide), if_pos rfl,
    takeWhile_converted hname (by decide), String.ofList_toList]

theorem readArm?_text (value : String) :
    readArm? (CodeLine.label name value).text = some (name, value) := by
  have hline : skipBlanks (CodeLine.label name value).text.toList
      = "Self::".toList ++ (name.toList ++ ' ' :: ("=> ".toList
        ++ (literal value.toList ++ [',']))) := by
    have htext : (CodeLine.label name value).text.toList
        = List.replicate 12 ' ' ++ ("Self::".toList ++ (name.toList ++ ' ' :: ("=> ".toList
          ++ (literal value.toList ++ [','])))) := by
      simp [CodeLine.text_label, stringLiteral_toList, List.replicate]
    rw [htext, skipBlanks_replicate]
    exact skipBlanks_cons (by decide) _
  have harrow (rest : List Char) :
      expectText? " => ".toList (' ' :: ("=> ".toList ++ rest)) = some rest :=
    expectText?_append " => ".toList rest
  rw [readArm?, hline, expectText?_append, Option.bind_eq_bind, Option.bind_some]
  simp only [takeWhile_converted hname (by decide : Identifier.isIdentifierChar ' ' = false),
    dropWhile_converted hname (by decide : Identifier.isIdentifierChar ' ' = false), harrow,
    readLiteral?_literal, Option.bind_eq_bind, Option.bind_some, if_true, String.ofList_toList]

end Names

/-! ## Lines -/

theorem readVariants?_text {values : List Variant} (h : ∀ v ∈ values, IsConverted v.variant) :
    readVariants? ((values.flatMap fun v =>
        [CodeLine.databaseName 1 v.value, .variant v.variant]).map CodeLine.text)
      = some (values.map fun v => (v.value, v.variant)) := by
  induction values with
  | nil => rfl
  | cons v values ih =>
    obtain ⟨hv, hvalues⟩ := List.forall_mem_cons.1 h
    rw [List.flatMap_cons, List.cons_append, List.cons_append, List.nil_append, List.map_cons,
      List.map_cons, readVariants?, readAttribute?_text, readVariant?_text hv, ih hvalues]
    rfl

theorem mapM_readArm?_text {values : List Variant} (h : ∀ v ∈ values, IsConverted v.variant) :
    ((values.map fun v => CodeLine.label v.variant v.value).map CodeLine.text).mapM readArm?
      = some (values.map fun v => (v.variant, v.value)) := by
  induction values with
  | nil => rfl
  | cons v values ih =>
    obtain ⟨hv, hvalues⟩ := List.forall_mem_cons.1 h
    rw [List.map_cons, List.map_cons, List.mapM_cons, readArm?_text hv, ih hvalues]
    rfl

/-- Lines of code are cut at the first one of a kind. -/
theorem cutAt?_text {p : String → Bool} {before : List CodeLine} {line : CodeLine}
    (hbefore : ∀ other ∈ before, p other.text = false) (hline : p line.text = true)
    (after : List CodeLine) :
    cutAt? p ((before ++ line :: after).map CodeLine.text)
      = some (before.map CodeLine.text, after.map CodeLine.text) := by
  induction before with
  | nil => exact if_pos hline
  | cons other before ih =>
    obtain ⟨hother, hothers⟩ := List.forall_mem_cons.1 hbefore
    rw [List.cons_append, List.map_cons, cutAt?, hother, if_neg Bool.false_ne_true, ih hothers]
    rfl

theorem eq_of_mem_deprecation {deprecated : Bool} {indent : String} {line : CodeLine}
    (h : line ∈ codeOf (deprecation deprecated indent)) :
    line = .fixed (indent ++ "#[deprecated]") := by
  cases deprecated with
  | false => cases h
  | true => exact List.mem_singleton.1 h

/-- A line is not a text that has another character somewhere. -/
theorem text_beq_eq_false {line : CodeLine} {text : String} (k : Nat)
    (h : line.text.toList[k]? ≠ text.toList[k]?) : (line.text == text) = false :=
  beq_eq_false_iff_ne.2 fun heq => h (congrArg (·.toList[k]?) heq)

/-! ## The parts of an enumeration -/

section Parts

variable (m : EnumModel) (deprecated : Bool)

/-- What stands before an enumeration, its attribute last. -/
def attributeCode : List CodeLine :=
  codeOf (deprecation deprecated "")
  ++ [.fixed "#[derive(Debug, Clone, Copy, PartialEq, Eq, Hash, ToSql, FromSql)]",
    .databaseName 0 m.source.name]

/-- The body of an enumeration. -/
def variantCode : List CodeLine :=
  m.values.flatMap fun v => [.databaseName 1 v.value, .variant v.variant]

/-- What stands between an enumeration and the function for labels. -/
def synonymCode : List CodeLine :=
  .fixed "" :: codeOf (deprecation deprecated "")
  ++ [.nullable m.nullableName m.name, .fixed "", .implHead m.name]
  ++ codeOf (deprecation deprecated "    ")

/-- The arms of the function for labels. -/
def armCode : List CodeLine :=
  m.values.map fun v => .label v.variant v.value

theorem codeOf_enumLines :
    codeOf (enumLines m deprecated)
      = attributeCode m deprecated ++ .enumHead m.name :: (variantCode m
        ++ .fixed "\x7d" :: (synonymCode m deprecated
          ++ .fixed "    pub const fn as_str(&self) -> &'static str \x7b"
          :: .fixed "        match *self \x7b" :: (armCode m
            ++ .fixed "        \x7d" :: [.fixed "    \x7d", .fixed "\x7d"]))) := by
  simp [enumLines, enumDeclarationLines, nullableLines, labelFunctionLines, attributeCode,
    variantCode, synonymCode, armCode]

variable (after : List CodeLine)

theorem cutAt?_attributeCode :
    cutAt? (fun line => "pub enum ".toList.isPrefixOf line.toList)
        ((attributeCode m deprecated ++ .enumHead m.name :: after).map CodeLine.text)
      = some ((attributeCode m deprecated).map CodeLine.text, after.map CodeLine.text) := by
  refine cutAt?_text (fun line hline => ?_) ?_ after
  · rcases List.mem_append.1 hline with hline | hline
    · rw [eq_of_mem_deprecation hline]
      decide
    · rcases List.mem_pair.1 hline with rfl | rfl
      · decide
      · simp [indentation, List.isPrefixOf]
  · rw [CodeLine.text_enumHead, String.append_assoc, String.toList_append]
    exact List.isPrefixOf_iff_prefix.2 (List.prefix_append _ _)

/-- The body ends with the first closing brace that nothing stands before: its lines are indented. -/
theorem cutAt?_variantCode :
    cutAt? (· == "\x7d") ((variantCode m ++ .fixed "\x7d" :: after).map CodeLine.text)
      = some ((variantCode m).map CodeLine.text, after.map CodeLine.text) := by
  refine cutAt?_text (fun line hline => ?_) (beq_self_eq_true "\x7d") after
  obtain ⟨v, -, hline⟩ := List.mem_flatMap.1 hline
  refine text_beq_eq_false 0 ?_
  rcases List.mem_pair.1 hline with rfl | rfl
  · simp [indentation]
  · simp

theorem cutAt?_synonymCode :
    cutAt? (· == "    pub const fn as_str(&self) -> &'static str \x7b")
        ((synonymCode m deprecated ++ .fixed "    pub const fn as_str(&self) -> &'static str \x7b"
          :: after).map CodeLine.text)
      = some ((synonymCode m deprecated).map CodeLine.text, after.map CodeLine.text) := by
  refine cutAt?_text (fun line hline => ?_) ?_ after
  · simp only [synonymCode, List.mem_cons, List.mem_append, List.not_mem_nil, or_false] at hline
    rcases hline with ((rfl | hline) | rfl | rfl | rfl) | hline
    · exact text_beq_eq_false 0 (by decide)
    · rw [eq_of_mem_deprecation hline]
      exact text_beq_eq_false 0 (by decide)
    · exact text_beq_eq_false 0 (by simp)
    · exact text_beq_eq_false 0 (by decide)
    · exact text_beq_eq_false 0 (by simp)
    · -- a mark of the function is indented as the function is
      rw [eq_of_mem_deprecation hline]
      exact text_beq_eq_false 4 (by decide)
  · exact beq_self_eq_true _

/-- The arms end with the first closing brace that stands below the start of the match: they are
indented further. -/
theorem cutAt?_armCode :
    cutAt? (· == "        \x7d") ((armCode m ++ .fixed "        \x7d" :: after).map CodeLine.text)
      = some ((armCode m).map CodeLine.text, after.map CodeLine.text) := by
  refine cutAt?_text (fun line hline => ?_) (beq_self_eq_true "        \x7d") after
  obtain ⟨v, -, rfl⟩ := List.mem_map.1 hline
  exact text_beq_eq_false 8 (by simp)

end Parts

/-! ## The source of an enumeration -/

section Source

variable {e : Enumeration} (hschema : IsOneLine e.schema) (hname : IsOneLine e.name)
  (deprecated : Bool)

include hschema hname

/-- The text for an enumeration reads back as its variants and labels, if the names that stand in
its comment have no line breaks. -/
theorem readEnum?_sourceText :
    readEnum? (sourceText (enumLines (.ofEnumeration e) deprecated))
      = some {
        databaseName := e.name
        named := (EnumModel.ofEnumeration e).values.map fun v => (v.value, v.variant)
        arms := (EnumModel.ofEnumeration e).values.map fun v => (v.variant, v.value) } := by
  have hvariants : ∀ v ∈ (EnumModel.ofEnumeration e).values, IsConverted v.variant :=
    fun _ hv => .variant hv
  have hbody : readVariants? ((variantCode (.ofEnumeration e)).map CodeLine.text)
      = some ((EnumModel.ofEnumeration e).values.map fun v => (v.value, v.variant)) :=
    readVariants?_text hvariants
  have harms : ((armCode (.ofEnumeration e)).map CodeLine.text).mapM readArm?
      = some ((EnumModel.ofEnumeration e).values.map fun v => (v.variant, v.value)) :=
    mapM_readArm?_text hvariants
  have hattribute : ((attributeCode (.ofEnumeration e) deprecated).map CodeLine.text).getLast?
      = some (CodeLine.databaseName 0 e.name).text := by
    rw [attributeCode, List.append_cons, List.map_append, List.map_singleton, List.getLast?_concat]
    rfl
  have hmatch (after : List CodeLine) :
      cutAt? (· == "        match *self \x7b")
          ((CodeLine.fixed "        match *self \x7b" :: after).map CodeLine.text)
        = some ([], after.map CodeLine.text) :=
    if_pos (beq_self_eq_true _)
  -- the parts are cut off in the order in which they stand, and each is read by its lines
  rw [readEnum?, codeLines_enumLines hschema hname, codeOf_enumLines, cutAt?_attributeCode]
  simp only [Option.bind_eq_bind, Option.bind_some, hattribute, readAttribute?_text,
    cutAt?_variantCode, hbody, cutAt?_synonymCode, hmatch, cutAt?_armCode, harms]
  rfl

end Source

/-- Where each variant has one arm, its label is known by the arm. -/
theorem EnumSource.label?_eq_some_iff {source : EnumSource}
    (hnodup : (source.arms.map (·.1)).Nodup) {variant label : String} :
    source.label? variant = some label ↔ (variant, label) ∈ source.arms := by
  constructor
  · intro h
    obtain ⟨before, after, harms, -⟩ := List.lookup_eq_some_iff.1 h
    rw [harms]
    exact List.mem_append_right _ List.mem_cons_self
  · exact fun h => lookup_of_mem hnodup h

/-- The source of an enumeration, whatever its labels are, names each variant as the function for
labels does: the literals of the attributes and those of the arms are the labels, in the order of the
catalog and each with its variant. No two variants are the same, so that a variant has the label just
if its attribute names it so, and different variants have different labels if the labels differ. -/
theorem renderEnum_reads_back (helpers : Helpers) {e : Enumeration} (hschema : IsOneLine e.schema)
    (hname : IsOneLine e.name) (deprecated : Bool) :
    ∃ text source,
      (Renderer.standard helpers .passthrough).renderEnum (.ofEnumeration e) deprecated = .ok text
      ∧ readEnum? text = some source
      ∧ source.databaseName = e.name
      ∧ source.named = e.labels.zip ((EnumModel.ofEnumeration e).values.map (·.variant))
      ∧ source.arms = ((EnumModel.ofEnumeration e).values.map (·.variant)).zip e.labels
      ∧ ((EnumModel.ofEnumeration e).values.map (·.variant)).length = e.labels.length
      ∧ ((EnumModel.ofEnumeration e).values.map (·.variant)).Nodup
      ∧ (∀ variant label,
        source.label? variant = some label ↔ (label, variant) ∈ source.named)
      ∧ (e.labels.Nodup → ∀ v w label,
        source.label? v = some label → source.label? w = some label → v = w) := by
  let values := (EnumModel.ofEnumeration e).values
  let source : EnumSource := {
    databaseName := e.name
    named := values.map fun v => (v.value, v.variant)
    arms := values.map fun v => (v.variant, v.value) }
  have hlabels : values.map (·.value) = e.labels := EnumModel.values_map_value e
  have hvariants : (values.map (·.variant)).Nodup := EnumModel.nodup_variants e
  have hrender : (Renderer.standard helpers .passthrough).renderEnum (.ofEnumeration e) deprecated
      = .ok (sourceText (enumLines (.ofEnumeration e) deprecated)) :=
    (Config.render_eq_ok_iff rfl (render_enumeration _ deprecated)).2 rfl
  -- no arm is hidden by one before it, since variants are distinct
  have hlabel (variant label : String) :
      source.label? variant = some label ↔ ∃ v ∈ values, v.variant = variant ∧ v.value = label := by
    have hnodup : (source.arms.map (·.1)).Nodup := by
      rwa [List.map_map]
    rw [EnumSource.label?_eq_some_iff hnodup, List.mem_map]
    simp only [Prod.mk.injEq]
  refine ⟨_, source, hrender, readEnum?_sourceText hschema hname deprecated, rfl, ?_, ?_, ?_,
    hvariants, fun variant label => ?_, fun hnodup v w label hv hw => ?_⟩
  · rw [← hlabels, List.zip_map']
  · rw [← hlabels, List.zip_map']
  · rw [← hlabels, List.length_map, List.length_map]
  · rw [hlabel, List.mem_map]
    simp only [Prod.mk.injEq, and_comm]
  · obtain ⟨first, hfirst, rfl, hvalue⟩ := (hlabel v label).1 hv
    obtain ⟨second, hsecond, rfl, rfl⟩ := (hlabel w label).1 hw
    rw [← hlabels] at hnodup
    rw [List.inj_on_of_nodup_map hnodup hfirst hsecond hvalue]

/-- Labels of which two become one name, and one looks like the end of its literal and its line. -/
def progress : Enumeration where
  schema := "public"
  name := "progress"
  dbType := "progress"
  labels := ["in_progress", "in-progress", "\")]\n    Done"]

theorem renderEnum_reads_back_progress :
    IsOneLine progress.schema ∧ IsOneLine progress.name ∧ progress.labels.Nodup
    ∧ ∃ text source,
      (Renderer.standard {} .passthrough).renderEnum (.ofEnumeration progress) true = .ok text
      ∧ readEnum? text = some source
      ∧ source.databaseName = "progress"
      ∧ source.arms = [("InProgress", "in_progress"), ("InProgress2", "in-progress"),
        ("____Done", "\")]\n    Done")]
      ∧ ∀ v w label, source.label? v = some label → source.label? w = some label → v = w := by
  have hschema : IsOneLine progress.schema := by decide
  have hname : IsOneLine progress.name := by decide
  have hlabels : progress.labels.Nodup := by decide
  have hvariants : (EnumModel.ofEnumeration progress).values.map (·.variant)
      = ["InProgress", "InProgress2", "____Done"] := by
    decide +kernel
  obtain ⟨text, source, htext, hsource, hdatabase, -, harms, -, -, -, hinjective⟩ :=
    renderEnum_reads_back {} hschema hname true
  rw [hvariants] at harms
  exact ⟨hschema, hname, hlabels, text, source, htext, hsource, hdatabase, harms,
    hinjective hlabels⟩

end RowBindings.Generation
