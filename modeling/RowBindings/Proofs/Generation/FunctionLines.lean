import RowBindings.Proofs.Generation.Declarations

/-!
# The lines of the functions

The layout of the functions for a record, cut into lines: each line is a fixed one, or one whose
other parts are fields, types, positions and string literals.
-/

namespace RowBindings.Generation

open Model Model.Record Statement Template Text

section Layout

variable (r : Record) (deprecated : Bool)

theorem deprecationText_eq (indent : String) :
    deprecationText deprecated indent = blockText (deprecation deprecated indent) := by
  cases deprecated with
  | false => rfl
  | true =>
    refine String.toList_inj.1 ?_
    simp only [deprecationText, deprecation, if_true, blockText_cons, blockText_nil,
      SourceLine.text_fixed, String.toList_append, String.reduceToList, List.append_assoc,
      List.cons_append, List.nil_append]

theorem boundFields_eq : boundFields r = (r.insertParams.map (·.name)).map ("self." ++ ·) := by
  rw [boundFields, List.map_map]
  rfl

/-- A call that inserts a record, cut into lines. -/
theorem callText_eq (onConflict : OnConflict) (method : Method) :
    ({ method, sql := r.insert.text onConflict, bound := boundFields r } : Call).text
      = "db." ++ method.name ++ "(\n" ++ blockText (insertionLines r onConflict) := by
  refine String.toList_inj.1 ?_
  simp only [Call.text, boundFields_eq, insertionLines, blockText_cons, blockText_nil,
    SourceLine.text_fixed, SourceLine.text_code, CodeLine.text_statement, CodeLine.text_boundFields,
    String.toList_append, String.reduceToList, List.append_assoc, List.cons_append,
    List.nil_append]

theorem storedText_eq (depth : Nat) :
    storedText (indentation depth) (positioned r.insertScan) = blockText (storedLines depth r) := by
  have hlines : storedLines depth r
      = (positioned r.insertScan).flatMap fun p => [.code (.stored depth p.1 p.2)] :=
    List.map_eq_flatMap
  rw [hlines, blockText_flatMap, storedText]
  refine congrArg String.join (List.map_congr_left ?_)
  rintro ⟨f, j⟩ -
  refine String.toList_inj.1 ?_
  simp only [blockText_cons, blockText_nil, SourceLine.text_code, CodeLine.text_stored,
    String.toList_append, String.reduceToList, List.append_assoc, List.cons_append,
    List.nil_append]

theorem filledText_eq :
    filledText (positioned r.selectScan)
      = blockText ((positioned r.selectScan).map fun p => .code (.filled p.1 p.2)) := by
  have hlines : ((positioned r.selectScan).map fun p => SourceLine.code (.filled p.1 p.2))
      = (positioned r.selectScan).flatMap fun p => [.code (.filled p.1 p.2)] :=
    List.map_eq_flatMap
  rw [hlines, blockText_flatMap, filledText]
  refine congrArg String.join (List.map_congr_left ?_)
  rintro ⟨f, j⟩ -
  refine String.toList_inj.1 ?_
  simp only [blockText_cons, blockText_nil, SourceLine.text_code, CodeLine.text_filled,
    String.toList_append, String.reduceToList, List.append_assoc, List.cons_append,
    List.nil_append]

theorem indentation_two : indentation 2 = "        " := by decide

theorem indentation_four : indentation 4 = "                " := by decide

/-- What is done to insert the record, cut into lines. -/
theorem createBody_eq :
    (functionsOf r deprecated).createBody = blockText (if r.key.isGenerated then
      .fixed "        let row = db.query_one(" :: insertionLines r .fail ++ storedLines 2 r
      else .fixed "        db.execute(" :: insertionLines r .fail) := by
  cases hgenerated : r.key.isGenerated with
  | true =>
    have hcreate : (functionsOf r deprecated).create
        = { method := .queryOne, sql := r.insert.text .fail, bound := boundFields r } := by
      rw [functionsOf, createCall, hgenerated]
      rfl
    have hcreated : (functionsOf r deprecated).created = positioned r.insertScan := rfl
    rw [Functions.createBody, hcreate, hcreated, ← indentation_two, storedText_eq, callText_eq,
      if_neg Method.noConfusion, if_pos rfl]
    refine String.toList_inj.1 ?_
    simp only [blockText_append, blockText_cons, SourceLine.text_fixed, Method.name,
      String.toList_append, String.reduceToList, List.cons_append, List.nil_append]
  | false =>
    have hcreate : (functionsOf r deprecated).create
        = { method := .execute, sql := r.insert.text .fail, bound := boundFields r } := by
      rw [functionsOf, createCall, hgenerated]
      rfl
    have hcreated : (functionsOf r deprecated).created = [] := by
      rw [functionsOf, insertScan, hgenerated]
      rfl
    rw [Functions.createBody, hcreate, hcreated, callText_eq, if_pos rfl,
      if_neg Bool.false_ne_true]
    refine String.toList_inj.1 ?_
    simp only [blockText_cons, SourceLine.text_fixed, Method.name, storedText, List.map_nil,
      String.join_nil, String.append_empty, String.toList_append, String.reduceToList,
      List.cons_append, List.nil_append]

theorem createComment_eq (name : String) :
    "    /// Inserts the " ++ name ++ " into the database.\n"
      = blockText [.comment ("    /// Inserts the " ++ name ++ " into the database.")] := by
  have hend : " into the database.\n" = " into the database." ++ "\n" := by decide +kernel
  rw [hend, blockText_cons, blockText_nil, SourceLine.text_comment, String.append_empty,
    ← String.append_assoc]

theorem createHead_eq :
    "    pub fn create<C: GenericClient>(&mut self, db: &mut C) -> Result<(), postgres::Error> \x7b\n"
      = blockText [.fixed
        "    pub fn create<C: GenericClient>(&mut self, db: &mut C) -> Result<(), postgres::Error> \x7b"]
    := by decide +kernel

/-- The function that inserts a record, cut into lines. -/
theorem createText_eq :
    (functionsOf r deprecated).createText = blockText (createLines r deprecated) := by
  have hend : "        Ok(())\n    \x7d\n\n"
      = blockText [.fixed "        Ok(())", .fixed "    \x7d", .blank] := by decide +kernel
  have htext : (functionsOf r deprecated).createText
      = "    /// Inserts the " ++ r.name ++ " into the database.\n"
        ++ deprecationText deprecated "    "
        ++ "    pub fn create<C: GenericClient>(&mut self, db: &mut C) -> Result<(), postgres::Error> \x7b\n"
        ++ (functionsOf r deprecated).createBody ++ "        Ok(())\n    \x7d\n\n" := rfl
  rw [htext, createComment_eq, createHead_eq, hend, createBody_eq, deprecationText_eq]
  simp only [← blockText_append]
  rfl

/-- What is done to insert the record unless there is a row in conflict with it, cut into lines. -/
theorem createUnlessConflictBody_eq :
    (functionsOf r deprecated).createUnlessConflictBody = blockText (if r.key.isGenerated then
      .fixed "        let row = db.query_opt(" :: insertionLines r .doNothing
      ++ [.fixed "        match row \x7b", .fixed "            Some(row) => \x7b"]
      ++ storedLines 4 r
      ++ [.fixed "                Ok(true)", .fixed "            \x7d",
        .fixed "            None => Ok(false),", .fixed "        \x7d"]
      else .fixed "        let affected = db.execute(" :: insertionLines r .doNothing
      ++ [.fixed "        Ok(affected > 0)"]) := by
  have hstored : (functionsOf r deprecated).createdUnlessConflict = positioned r.insertScan := rfl
  cases hgenerated : r.key.isGenerated with
  | true =>
    have hcreate : (functionsOf r deprecated).createUnlessConflict
        = { method := .queryOpt, sql := r.insert.text .doNothing, bound := boundFields r } := by
      rw [functionsOf, createUnlessConflictCall, hgenerated]
      rfl
    rw [Functions.createUnlessConflictBody, hcreate, hstored, ← indentation_four, storedText_eq,
      callText_eq, if_neg Method.noConfusion, if_pos rfl]
    refine String.toList_inj.1 ?_
    simp only [blockText_append, blockText_cons, blockText_nil, SourceLine.text_fixed, Method.name,
      String.toList_append, String.reduceToList, List.append_assoc, List.cons_append,
      List.nil_append]
  | false =>
    have hcreate : (functionsOf r deprecated).createUnlessConflict
        = { method := .execute, sql := r.insert.text .doNothing, bound := boundFields r } := by
      rw [functionsOf, createUnlessConflictCall, hgenerated]
      rfl
    rw [Functions.createUnlessConflictBody, hcreate, callText_eq, if_pos rfl,
      if_neg Bool.false_ne_true]
    refine String.toList_inj.1 ?_
    simp only [blockText_append, blockText_cons, blockText_nil, SourceLine.text_fixed, Method.name,
      String.toList_append, String.reduceToList, List.cons_append, List.nil_append]

theorem conflictComment_eq (name : String) :
    "    /// Inserts the " ++ name
        ++ " unless it conflicts with an existing row.\n    /// Returns `false` when the insert was skipped.\n"
      = blockText [
        .comment ("    /// Inserts the " ++ name ++ " unless it conflicts with an existing row."),
        .comment "    /// Returns `false` when the insert was skipped."] := by
  have hend :
      " unless it conflicts with an existing row.\n    /// Returns `false` when the insert was skipped.\n"
        = " unless it conflicts with an existing row." ++ ("\n"
          ++ blockText [.comment "    /// Returns `false` when the insert was skipped."]) := by
    decide +kernel
  refine Eq.trans ?_ (blockText_cons _ _).symm
  rw [hend, ← String.append_assoc]
  rfl

theorem conflictHead_eq :
    "    pub fn create_on_conflict_do_nothing<C: GenericClient>(\n        &mut self,\n        db: &mut C,\n    ) -> Result<bool, postgres::Error> \x7b\n"
      = blockText [.fixed "    pub fn create_on_conflict_do_nothing<C: GenericClient>(",
        .fixed "        &mut self,", .fixed "        db: &mut C,",
        .fixed "    ) -> Result<bool, postgres::Error> \x7b"] := by decide +kernel

/-- The function that inserts a record unless there is a row in conflict with it, cut into lines. -/
theorem createUnlessConflictText_eq :
    (functionsOf r deprecated).createUnlessConflictText
      = blockText (createUnlessConflictLines r deprecated) := by
  have hend : "    \x7d\n" = blockText [.fixed "    \x7d"] := by decide +kernel
  have htext : (functionsOf r deprecated).createUnlessConflictText
      = "    /// Inserts the " ++ r.name
        ++ " unless it conflicts with an existing row.\n    /// Returns `false` when the insert was skipped.\n"
        ++ deprecationText deprecated "    "
        ++ "    pub fn create_on_conflict_do_nothing<C: GenericClient>(\n        &mut self,\n        db: &mut C,\n    ) -> Result<bool, postgres::Error> \x7b\n"
        ++ (functionsOf r deprecated).createUnlessConflictBody ++ "    \x7d\n" := rfl
  rw [htext, conflictComment_eq, conflictHead_eq, hend, createUnlessConflictBody_eq,
    deprecationText_eq]
  simp only [← blockText_append]
  rfl

/-- The parameters of the function that selects a record, by the types of the key fields. -/
theorem selectParams_eq_zip :
    r.selectParams = ((List.range (r.keyFields.map (·.type)).length).map keyParamName).zip
      (r.keyFields.map (·.type)) := by
  rw [List.length_map, ← selectParams_map_fst, ← selectParams_map_snd]
  exact List.zip_of_prod rfl rfl

theorem selectComment_eq (name : String) :
    "\n    /// Selects the " ++ name ++ " with the given primary key.\n"
      = blockText [.blank,
        .comment ("    /// Selects the " ++ name ++ " with the given primary key.")] := by
  have hstart : "\n    /// Selects the " = "\n" ++ "    /// Selects the " := by decide +kernel
  have hend : " with the given primary key.\n" = " with the given primary key." ++ "\n" := by
    decide +kernel
  rw [hstart, hend, blockText_cons, SourceLine.text_blank, String.empty_append, blockText_cons,
    blockText_nil, SourceLine.text_comment, String.append_empty]
  simp only [String.append_assoc]

/-- The parameters of the function that selects a record, and what it returns. -/
theorem selectHead_eq (types : List String) :
    "    pub fn get_by_pk<C: GenericClient>(\n        db: &mut C,\n        "
        ++ signatureText (((List.range types.length).map keyParamName).zip types)
        ++ ",\n    ) -> Result<Option<Self>, postgres::Error> \x7b\n"
      = blockText [.fixed "    pub fn get_by_pk<C: GenericClient>(", .fixed "        db: &mut C,",
        .code (.keyParams types), .fixed "    ) -> Result<Option<Self>, postgres::Error> \x7b"] := by
  have hstart : "    pub fn get_by_pk<C: GenericClient>(\n        db: &mut C,\n        "
      = blockText [.fixed "    pub fn get_by_pk<C: GenericClient>(", .fixed "        db: &mut C,"]
        ++ "        " := by decide +kernel
  have hend : ",\n    ) -> Result<Option<Self>, postgres::Error> \x7b\n"
      = "," ++ ("\n"
        ++ blockText [.fixed "    ) -> Result<Option<Self>, postgres::Error> \x7b"]) := by
    decide +kernel
  rw [hstart, hend]
  simp only [blockText_cons, blockText_nil, SourceLine.text_code, CodeLine.text_keyParams,
    String.append_assoc, String.empty_append]

/-- The call that selects a record, cut into lines. -/
theorem selectCallText_eq (s : Select) :
    "        let row = " ++ (selectCall r s).text
      = blockText [.fixed "        let row = db.query_opt(", .code (.statement s.text),
        .code (.boundKeys r.keyFields.length), .fixed "        )?;"] := by
  rw [selectCall, Call.text, selectParams_map_fst]
  refine String.toList_inj.1 ?_
  simp only [blockText_cons, blockText_nil, SourceLine.text_fixed, SourceLine.text_code,
    CodeLine.text_statement, CodeLine.text_boundKeys, Method.name, String.toList_append,
    String.reduceToList, List.append_assoc, List.cons_append, List.nil_append]

/-- The function that selects a record by its key, cut into lines. -/
theorem selectFunctionText_eq (s : Select) :
    Functions.selectFunctionText r.name deprecated
        { params := r.selectParams, call := selectCall r s, filled := positioned r.selectScan }
      = blockText (selectLines r deprecated s) := by
  have hreturn : ",\n    ) -> Result<Option<Self>, postgres::Error> \x7b\n        let row = "
      = ",\n    ) -> Result<Option<Self>, postgres::Error> \x7b\n" ++ "        let row = " := by
    decide +kernel
  have hfilled : "        Ok(row.map(|row| Self \x7b\n"
      = blockText [.fixed "        Ok(row.map(|row| Self \x7b"] := by decide +kernel
  have hend : "        \x7d))\n    \x7d\n"
      = blockText [.fixed "        \x7d))", .fixed "    \x7d"] := by decide +kernel
  have htext : Functions.selectFunctionText r.name deprecated
        { params := r.selectParams, call := selectCall r s, filled := positioned r.selectScan }
      = "\n    /// Selects the " ++ r.name ++ " with the given primary key.\n"
        ++ deprecationText deprecated "    "
        ++ ("    pub fn get_by_pk<C: GenericClient>(\n        db: &mut C,\n        "
          ++ signatureText r.selectParams
          ++ ",\n    ) -> Result<Option<Self>, postgres::Error> \x7b\n")
        ++ ("        let row = " ++ (selectCall r s).text)
        ++ "        Ok(row.map(|row| Self \x7b\n"
        ++ filledText (positioned r.selectScan) ++ "        \x7d))\n    \x7d\n" := by
    delta Functions.selectFunctionText
    simp only [hreturn, String.append_assoc]
  rw [htext, selectComment_eq, selectParams_eq_zip, selectHead_eq, selectCallText_eq, hfilled, hend,
    filledText_eq, deprecationText_eq, selectLines]
  simp only [← blockText_append, List.append_assoc, List.cons_append, List.nil_append]

/-- The functions for a record are just the lines laid down for them. -/
theorem functionsOf_text_eq :
    (functionsOf r deprecated).text = sourceText (functionLines r deprecated) := by
  have htext : (functionsOf r deprecated).text
      = "impl " ++ r.name ++ " \x7b\n" ++ (functionsOf r deprecated).createText
        ++ (functionsOf r deprecated).createUnlessConflictText
        ++ (functionsOf r deprecated).selectText ++ "\x7d" := rfl
  have hselect : (functionsOf r deprecated).selectText = blockText
      (r.select?.elim [] (selectLines r deprecated)) := by
    rw [Functions.selectText, functionsOf]
    cases r.select? with
    | none => rfl
    | some s => exact selectFunctionText_eq r deprecated s
  rw [htext, createText_eq, createUnlessConflictText_eq, hselect, functionLines,
    sourceText_append_cons]
  refine String.toList_inj.1 ?_
  simp only [sourceText_singleton, blockText_append, blockText_cons, SourceLine.text_fixed,
    SourceLine.text_code, CodeLine.text_implHead, String.toList_append, String.reduceToList,
    List.append_assoc, List.cons_append, List.nil_append]

end Layout

/-- The template for functions writes the lines laid down for them. -/
theorem render_functions {env : Environment} (henv : env.helpers = {}) (r : Record)
    (deprecated : Bool) :
    env.render methodsTemplate Standard.methods (givenFor "struct" (.record r) deprecated)
      = .ok (sourceText (functionLines r deprecated)) := by
  rw [← functionsOf_text_eq]
  exact render_methods r deprecated henv

end RowBindings.Generation
