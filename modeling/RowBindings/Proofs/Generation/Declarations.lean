import RowBindings.Proofs.Generation.SourceLines

/-!
# The declarations that templates write

The standard templates for records and enumerations write just the lines that are laid down for
them, whatever the names, labels and types are.
-/

namespace RowBindings.Generation

open Model Model.Record Template

/-! ## Templates of statements that change nothing -/

/-- The machine at the start of a template without blocks. -/
def initialMachine (name : String) (given : List (String × Value)) : Machine where
  given := given
  frames := [{ source := .given }]
  lineage := [name]

theorem render_of_writesAll {env : Environment} {name text : String} {tree : Tree}
    {given : List (String × Value)} (hblocks : tree.blocks = [])
    (h : WritesAll env (runAt env 999) (initialMachine name given) tree.body text) :
    env.render name tree given = .ok text := by
  have hrun : runAt env (999 + 1) { body := tree.body } (initialMachine name given)
      = .ok (initialMachine name given, text) := runAt_of_execAll rfl h rfl
  rw [Environment.render, hblocks]
  exact congrArg (fun outcome : Outcome => outcome >>= fun result => pure result.2) hrun

section Writing

variable {env : Environment} {run : Runner} {name : String}

/-- The values given to a template for an item. -/
def givenFor (item : String) (v : Value) (deprecated : Bool) : List (String × Value) :=
  [(item, v), ("deprecated", .bool deprecated)]

variable {item : String} {v : Value} (deprecated : Bool)

theorem writes_mark (hitem : item ≠ "deprecated") (indent : String) :
    Writes env run (initialMachine name (givenFor item v deprecated)) (Standard.deprecation indent)
      (blockText (deprecation deprecated indent)) := by
  have hgiven : (initialMachine name (givenFor item v deprecated)).lookup "deprecated"
      = some (.bool deprecated) := by
    have hne : ("deprecated" == item) = false := beq_false_of_ne hitem.symm
    simp [Machine.lookup, initialMachine, givenFor, Machine.lookupIn, List.lookup_cons, hne]
  refine writes_cond (hasValue_name hgiven) ?_
  cases deprecated with
  | false => exact writesAll_nil
  | true =>
    have htext : blockText (deprecation true indent) = indent ++ "#[deprecated]\n" := by
      refine String.toList_inj.1 ?_
      simp only [deprecation, if_true, blockText_cons, blockText_nil, SourceLine.text_fixed,
        String.toList_append, String.reduceToList, List.append_assoc, List.cons_append,
        List.nil_append]
    rw [htext]
    exact writesAll_singleton (writes_text rfl _)

end Writing

section Enumeration

variable {env : Environment} {run : Runner} (m : EnumModel) (deprecated : Bool)

/-- The machine of the template for enumerations. -/
def enumMachine : Machine :=
  initialMachine enumTemplate (givenFor "enum" (.ofEnumModel m) deprecated)

/-- A variant as a value. -/
def variantValue (v : Variant) : Value :=
  .object [("type_name", .text v.typeName), ("name", .text v.name), ("variant", .text v.variant),
    ("value", .text v.value)]

theorem hasValue_enum :
    HasValue env run (enumMachine m deprecated) (.name "enum") (.ofEnumModel m) :=
  hasValue_name rfl

theorem writes_enumName :
    Writes env run (enumMachine m deprecated) Standard.enumName m.name :=
  writes_emitText rfl (hasValue_field (hasValue_enum m deprecated) rfl)

theorem hasValue_variants :
    HasValue env run (enumMachine m deprecated) (Standard.path "enum" ["values"])
      (.list (m.values.map variantValue)) :=
  hasValue_field (hasValue_enum m deprecated) rfl

theorem hasValue_sourceName :
    HasValue env run (enumMachine m deprecated) (Standard.path "enum" ["pg_enum", "name"])
      (.text m.source.name) :=
  hasValue_field (hasValue_field (hasValue_enum m deprecated) rfl) rfl

/-- A part of a variant. -/
theorem hasValue_variant {machine : Machine} (v : Variant) (state : Value) {field text : String}
    (hfield : (variantValue v).field field = .ok (.text text)) :
    HasValue env run (machine.within (loopFrame "v" (variantValue v) state))
      (Standard.path "v" [field]) (.text text) :=
  hasValue_field (hasValue_element "v" _ state) hfield

theorem depth_enumMachine_lt : (enumMachine m deprecated).depth < Machine.depthLimit := by
  show 1 < 500
  omega

theorem writes_variants :
    Writes env run (enumMachine m deprecated)
      (Standard.each "v" (Standard.path "enum" ["values"]) [
        .text "    /// ", Standard.put "v" ["name"],
        .text "\n    #[postgres(name = ", Standard.putLiteral (Standard.path "v" ["value"]),
        .text ")]\n    ", Standard.put "v" ["variant"], .text ",\n"])
      (blockText (m.values.flatMap fun v => [.comment ("    /// " ++ v.name),
        .code (.databaseName 1 v.value), .code (.variant v.variant)])) := by
  have htext : blockText (m.values.flatMap fun v => [.comment ("    /// " ++ v.name),
        .code (.databaseName 1 v.value), .code (.variant v.variant)])
      = lines (fun v _ => "    /// " ++ (v.name ++ ("\n    #[postgres(name = " ++
          (Text.stringLiteral v.value ++ (")]\n    " ++ (v.variant ++ ",\n")))))) 0 m.values := by
    rw [lines_eq_join, blockText_flatMap]
    refine congrArg String.join (List.map_congr_left fun v _ => ?_)
    refine String.toList_inj.1 ?_
    simp only [blockText_cons, blockText_nil, SourceLine.text_comment, SourceLine.text_code,
      CodeLine.text_databaseName, CodeLine.text_variant, indentation_toList, List.replicate,
      String.toList_append, String.reduceToList, List.append_assoc, List.cons_append,
      List.nil_append]
  rw [htext]
  refine writes_each (hasValue_variants m deprecated) (depth_enumMachine_lt m deprecated) rfl
    fun v index previous next => ?_
  exact writesAll_cons (writes_text rfl _) (writesAll_cons
      (writes_emitText rfl (hasValue_variant v _ rfl)) (writesAll_cons (writes_text rfl _)
        (writesAll_cons (writes_putLiteral rfl (hasValue_variant v _ rfl))
          (writesAll_cons (writes_text rfl _) (writesAll_cons
            (writes_emitText rfl (hasValue_variant v _ rfl))
            (writesAll_singleton (writes_text rfl _)))))))

theorem writes_labels :
    Writes env run (enumMachine m deprecated)
      (Standard.each "v" (Standard.path "enum" ["values"]) [
        .text "            Self::", Standard.put "v" ["variant"], .text " => ",
        Standard.putLiteral (Standard.path "v" ["value"]), .text ",\n"])
      (blockText (m.values.map fun v => .code (.label v.variant v.value))) := by
  have htext : blockText (m.values.map fun v => .code (.label v.variant v.value))
      = lines (fun v _ => "            Self::" ++ (v.variant ++ (" => " ++
          (Text.stringLiteral v.value ++ ",\n")))) 0 m.values := by
    rw [lines_eq_join, List.map_eq_flatMap, blockText_flatMap]
    refine congrArg String.join (List.map_congr_left fun v _ => ?_)
    refine String.toList_inj.1 ?_
    simp only [blockText_cons, blockText_nil, SourceLine.text_code,
      CodeLine.text_label, String.toList_append, String.reduceToList, List.append_assoc,
      List.cons_append, List.nil_append]
  rw [htext]
  refine writes_each (hasValue_variants m deprecated) (depth_enumMachine_lt m deprecated) rfl
    fun v index previous next => ?_
  exact writesAll_cons (writes_text rfl _) (writesAll_cons
    (writes_emitText rfl (hasValue_variant v _ rfl)) (writesAll_cons (writes_text rfl _)
      (writesAll_cons (writes_putLiteral rfl (hasValue_variant v _ rfl))
        (writesAll_singleton (writes_text rfl _)))))

theorem writes_enumMark (indent : String) :
    Writes env run (enumMachine m deprecated) (Standard.deprecation indent)
      (blockText (deprecation deprecated indent)) :=
  writes_mark deprecated (by decide) indent

theorem writesAll_enumDeclaration :
    WritesAll env run (enumMachine m deprecated) Standard.enumDeclaration
      (blockText (enumDeclarationLines m deprecated)) := by
  have hschema : HasValue env run (enumMachine m deprecated)
      (Standard.path "enum" ["pg_enum", "schema"]) (.text m.source.schema) :=
    hasValue_field (hasValue_field (hasValue_enum m deprecated) rfl) rfl
  have hall : WritesAll env run (enumMachine m deprecated) Standard.enumDeclaration _ :=
    writesAll_cons (writes_text rfl "/// ") (writesAll_cons
    (writes_enumName m deprecated) (writesAll_cons (writes_text rfl " represents ")
    (writesAll_cons (writes_emitText rfl hschema) (writesAll_cons (writes_text rfl ".")
    (writesAll_cons (writes_emitText rfl (hasValue_sourceName m deprecated))
    (writesAll_cons (writes_text rfl "\n") (writesAll_cons (writes_enumMark m deprecated "")
    (writesAll_cons (writes_text rfl "#[derive(Debug, Clone, Copy, PartialEq, Eq, Hash, ToSql, FromSql)]\n#[postgres(name = ")
    (writesAll_cons (writes_putLiteral rfl (hasValue_sourceName m deprecated))
    (writesAll_cons (writes_text rfl ")]\npub enum ") (writesAll_cons
    (writes_enumName m deprecated) (writesAll_cons (writes_text rfl " \x7b\n")
    (writesAll_cons (writes_variants m deprecated)
    (writesAll_singleton (writes_text rfl "\x7d\n\n")))))))))))))))
  refine Eq.trans hall ?_
  refine congrArg (fun text => Except.ok (enumMachine m deprecated, text)) ?_
  refine String.toList_inj.1 ?_
  simp only [enumDeclarationLines, blockText_cons, blockText_append, blockText_nil,
    SourceLine.text_comment, SourceLine.text_fixed, SourceLine.text_blank, SourceLine.text_code,
    CodeLine.text_databaseName, CodeLine.text_enumHead, indentation_toList, List.replicate,
    String.toList_append, String.reduceToList, List.append_assoc, List.cons_append,
    List.nil_append]

theorem writesAll_nullableAlias :
    WritesAll env run (enumMachine m deprecated) Standard.nullableAlias
      (blockText (nullableLines m deprecated)) := by
  have hnullable : HasValue env run (enumMachine m deprecated)
      (Standard.path "enum" ["nullable_name"]) (.text m.nullableName) :=
    hasValue_field (hasValue_enum m deprecated) rfl
  have hall : WritesAll env run (enumMachine m deprecated) Standard.nullableAlias _ :=
    writesAll_cons (writes_text rfl "/// Nullable ") (writesAll_cons
    (writes_enumName m deprecated) (writesAll_cons (writes_text rfl "\n") (writesAll_cons
    (writes_enumMark m deprecated "") (writesAll_cons (writes_text rfl "pub type ")
    (writesAll_cons (writes_emitText rfl hnullable) (writesAll_cons
    (writes_text rfl " = Option<") (writesAll_cons (writes_enumName m deprecated)
    (writesAll_singleton (writes_text rfl ">;\n\n")))))))))
  refine Eq.trans hall ?_
  refine congrArg (fun text => Except.ok (enumMachine m deprecated, text)) ?_
  refine String.toList_inj.1 ?_
  simp only [nullableLines, blockText_cons, blockText_append, blockText_nil,
    SourceLine.text_comment, SourceLine.text_blank, SourceLine.text_code,
    CodeLine.text_nullable, String.toList_append, String.reduceToList, List.append_assoc,
    List.cons_append, List.nil_append]

theorem writesAll_labelFunction :
    WritesAll env run (enumMachine m deprecated) Standard.labelFunction
      (sourceText (labelFunctionLines m deprecated)) := by
  have hall : WritesAll env run (enumMachine m deprecated) Standard.labelFunction _ :=
    writesAll_cons (writes_text rfl "impl ") (writesAll_cons
    (writes_enumName m deprecated) (writesAll_cons
    (writes_text rfl " \x7b\n    /// Label as stored in the database\n") (writesAll_cons
    (writes_enumMark m deprecated "    ") (writesAll_cons
    (writes_text rfl "    pub const fn as_str(&self) -> &'static str \x7b\n        match *self \x7b\n")
    (writesAll_cons (writes_labels m deprecated)
    (writesAll_singleton (writes_text rfl
      "        \x7d\n    \x7d\n\x7d")))))))
  refine Eq.trans hall ?_
  refine congrArg (fun text => Except.ok (enumMachine m deprecated, text)) ?_
  refine String.toList_inj.1 ?_
  rw [labelFunctionLines, sourceText_append_cons]
  simp only [sourceText_cons_cons, sourceText_singleton, blockText_cons, blockText_append,
    SourceLine.text_comment, SourceLine.text_fixed, SourceLine.text_code, CodeLine.text_implHead,
    String.toList_append, String.reduceToList, List.append_assoc,
    List.cons_append, List.nil_append]

/-- The template for enumerations writes the lines laid down for them. -/
theorem render_enumeration :
    env.render enumTemplate Standard.enumeration (givenFor "enum" (.ofEnumModel m) deprecated)
      = .ok (sourceText (enumLines m deprecated)) := by
  refine render_of_writesAll rfl ?_
  have hdeclaration : WritesAll env (runAt env 999) (enumMachine m deprecated)
      Standard.enumDeclaration _ := writesAll_enumDeclaration m deprecated
  have hall := execAll_append (execAll_append hdeclaration
    (writesAll_nullableAlias m deprecated)) (writesAll_labelFunction m deprecated)
  have htext : sourceText (enumLines m deprecated)
      = blockText (enumDeclarationLines m deprecated) ++ blockText (nullableLines m deprecated)
        ++ sourceText (labelFunctionLines m deprecated) := by
    have hlast : ∃ l ls, labelFunctionLines m deprecated = l :: ls := ⟨_, _, rfl⟩
    obtain ⟨l, ls, hlast⟩ := hlast
    rw [enumLines, hlast, sourceText_append_cons, blockText_append]
  rw [htext]
  exact WritesAll.joinTexts hall

end Enumeration

section OfRecord

variable {env : Environment} {run : Runner} (r : Record) (deprecated : Bool)

/-- The machine of the template for records. -/
def recordMachine : Machine :=
  initialMachine recordTemplate (givenFor "struct" (.record r) deprecated)

theorem hasValue_struct :
    HasValue env run (recordMachine r deprecated) (.name "struct") (.record r) :=
  hasValue_name rfl

theorem writes_structName :
    Writes env run (recordMachine r deprecated) Standard.recordName r.name :=
  writes_emitText rfl (hasValue_field (hasValue_struct r deprecated) rfl)

theorem writes_fields :
    Writes env run (recordMachine r deprecated)
      (Standard.each "f" (Standard.path "struct" ["fields"]) [
        .text "    /// ", Standard.put "f" ["column", "name"],
        .text "\n    pub ", Standard.put "f" ["name"], .text ": ", Standard.put "f" ["type"],
        .text ",\n"])
      (blockText (r.fields.flatMap fun f =>
        [.comment ("    /// " ++ f.column.name), .code (.field f.name f.type)])) := by
  have htext : blockText (r.fields.flatMap fun f =>
        [.comment ("    /// " ++ f.column.name), .code (.field f.name f.type)])
      = lines (fun f _ => "    /// " ++ (f.column.name ++ ("\n    pub " ++ (f.name ++ (": " ++
          (f.type ++ ",\n")))))) 0 r.fields := by
    rw [lines_eq_join, blockText_flatMap]
    refine congrArg String.join (List.map_congr_left fun f _ => ?_)
    refine String.toList_inj.1 ?_
    simp only [blockText_cons, blockText_nil, SourceLine.text_comment, SourceLine.text_code,
      CodeLine.text_field, String.toList_append, String.reduceToList, List.append_assoc,
      List.cons_append, List.nil_append]
  have hfields : HasValue env run (recordMachine r deprecated) (Standard.path "struct" ["fields"])
      (.list (r.fields.map Value.ofField)) := hasValue_field (hasValue_struct r deprecated) rfl
  have hdepth : (recordMachine r deprecated).depth < Machine.depthLimit := by
    show 1 < 500
    omega
  rw [htext]
  refine writes_each hfields hdepth rfl fun f index previous next => ?_
  -- each element stands for a field, whose parts are looked up in turn
  have hfield {state : Value} : HasValue env run
      ((recordMachine r deprecated).within (loopFrame "f" (.ofField f) state)) (.name "f")
      (.ofField f) := hasValue_element "f" _ state
  exact writesAll_cons (writes_text rfl _) (writesAll_cons
    (writes_emitText rfl (hasValue_field (hasValue_field hfield rfl) rfl))
    (writesAll_cons (writes_text rfl _) (writesAll_cons
      (writes_emitText rfl (hasValue_field hfield rfl)) (writesAll_cons (writes_text rfl _)
        (writesAll_cons (writes_emitText rfl (hasValue_field hfield rfl))
          (writesAll_singleton (writes_text rfl _)))))))

/-- The template for records writes the lines laid down for them. -/
theorem render_record :
    env.render recordTemplate Standard.record (givenFor "struct" (.record r) deprecated)
      = .ok (sourceText (recordLines r deprecated)) := by
  refine render_of_writesAll rfl ?_
  have hschema : HasValue env (runAt env 999) (recordMachine r deprecated)
      (Standard.path "struct" ["table", "schema"]) (.text r.table.schema) :=
    hasValue_field (hasValue_field (hasValue_struct r deprecated) rfl) rfl
  have hname : HasValue env (runAt env 999) (recordMachine r deprecated)
      (Standard.path "struct" ["table", "name"]) (.text r.table.name) :=
    hasValue_field (hasValue_field (hasValue_struct r deprecated) rfl) rfl
  have hall : WritesAll env (runAt env 999) (recordMachine r deprecated) Standard.record.body _ :=
    writesAll_cons (writes_text rfl "/// ") (writesAll_cons
    (writes_structName r deprecated) (writesAll_cons (writes_text rfl " represents ")
    (writesAll_cons (writes_emitText rfl hschema) (writesAll_cons (writes_text rfl ".")
    (writesAll_cons (writes_emitText rfl hname) (writesAll_cons (writes_text rfl "\n")
    (writesAll_cons (writes_mark deprecated (by decide) "")
    (writesAll_cons (writes_text rfl "#[derive(Debug, Clone, PartialEq)]\npub struct ")
    (writesAll_cons (writes_structName r deprecated) (writesAll_cons (writes_text rfl " \x7b\n")
    (writesAll_cons (writes_fields r deprecated)
    (writesAll_singleton (writes_text rfl "\x7d")))))))))))))
  refine Eq.trans hall ?_
  refine congrArg (fun text => Except.ok (recordMachine r deprecated, text)) ?_
  refine String.toList_inj.1 ?_
  rw [recordLines, sourceText_append_cons]
  simp only [sourceText_singleton, blockText_cons, blockText_append, SourceLine.text_comment,
    SourceLine.text_fixed, SourceLine.text_code, CodeLine.text_recordHead, String.toList_append, String.reduceToList, List.append_assoc,
    List.cons_append, List.nil_append]

end OfRecord

end RowBindings.Generation
