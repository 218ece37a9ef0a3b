import RowBindings.Generation.Renderer
import RowBindings.Proofs.Model.Key
import RowBindings.Proofs.Template.Execution

/-!
# The functions generated for a record

The text of the functions as a layout of what they consist of: the calls that send statements, with
the statement and what is bound to its parameters, and the assignments that store what comes back.
The standard template writes just this layout, whatever the record.
-/

namespace RowBindings.Generation

open Model Model.Record Statement Template

/-! ## The layout -/

/-- How a statement is sent. -/
inductive Method
  | queryOne
  | queryOpt
  | execute
  deriving DecidableEq, Repr

/-- The name of the method. -/
def Method.name : Method → String
  | .queryOne => "query_one"
  | .queryOpt => "query_opt"
  | .execute => "execute"

/-- A call that sends a statement. -/
structure Call where
  method : Method
  /-- The statement. -/
  sql : String
  /-- What is bound to the parameters, in order. -/
  bound : List String
  deriving DecidableEq, Repr

/-- Each name with an ampersand before it and a comma after it. -/
def pathsText (bound : List String) : String :=
  String.join (bound.map fun path => "&" ++ path ++ ", ")

/-- What is bound to the parameters, between brackets. -/
def boundText (bound : List String) : String :=
  "&[" ++ pathsText bound ++ "]"

/-- A call as it is written. -/
def Call.text (c : Call) : String :=
  "db." ++ c.method.name ++ "(\n            " ++ Text.stringLiteral c.sql ++ ",\n            "
    ++ boundText c.bound ++ ",\n        )?;\n"

/-- The assignments that store what comes back: a field and a position for each. -/
def storedText (indent : String) (stored : List (String × Nat)) : String :=
  String.join (stored.map fun (field, j) =>
    indent ++ "self." ++ field ++ " = row.get(" ++ toString j ++ ");\n")

/-- The fields of a record that is made of what comes back: a field and a position for each. -/
def filledText (filled : List (String × Nat)) : String :=
  String.join (filled.map fun (field, j) =>
    "            " ++ field ++ ": row.get(" ++ toString j ++ "),\n")

/-- Parameters with their types. -/
def signatureText (params : List (String × String)) : String :=
  String.ofList (Text.joinWith [',', ' '] (params.map fun (name, type) =>
    name.toList ++ ':' :: ' ' :: type.toList))

/-- The mark of a deprecated item. -/
def deprecationText (deprecated : Bool) (indent : String) : String :=
  if deprecated then indent ++ "#[deprecated]\n" else ""

/-- The function that selects a record by its key. -/
structure SelectFunction where
  /-- The parameters, with their types. -/
  params : List (String × String)
  call : Call
  /-- The fields of the record, each with the position its value comes from. -/
  filled : List (String × Nat)
  deriving DecidableEq, Repr

/-- The functions for a record. -/
structure Functions where
  name : String
  deprecated : Bool
  create : Call
  created : List (String × Nat)
  createUnlessConflict : Call
  createdUnlessConflict : List (String × Nat)
  select : Option SelectFunction
  deriving DecidableEq, Repr

namespace Functions

/-- What is done to insert the record. -/
def createBody (fs : Functions) : String :=
  (if fs.create.method = .execute then "        " else "        let row = ")
    ++ fs.create.text ++ storedText "        " fs.created

/-- The function that inserts the record. -/
def createText (fs : Functions) : String :=
  "    /// Inserts the " ++ fs.name ++ " into the database.\n"
    ++ deprecationText fs.deprecated "    "
    ++ "    pub fn create<C: GenericClient>(&mut self, db: &mut C) -> Result<(), postgres::Error> \x7b\n"
    ++ fs.createBody ++ "        Ok(())\n    \x7d\n\n"

/-- What is done to insert the record unless there is a row in conflict with it. -/
def createUnlessConflictBody (fs : Functions) : String :=
  if fs.createUnlessConflict.method = .execute then
    "        let affected = " ++ fs.createUnlessConflict.text ++ "        Ok(affected > 0)\n"
  else
    "        let row = " ++ fs.createUnlessConflict.text
      ++ ("        match row \x7b\n            Some(row) => \x7b\n"
        ++ (storedText "                " fs.createdUnlessConflict
          ++ "                Ok(true)\n            \x7d\n            None => Ok(false),\n        \x7d\n"))

/-- The function that inserts the record unless there is a row in conflict with it. -/
def createUnlessConflictText (fs : Functions) : String :=
  "    /// Inserts the " ++ fs.name
    ++ " unless it conflicts with an existing row.\n    /// Returns `false` when the insert was skipped.\n"
    ++ deprecationText fs.deprecated "    "
    ++ "    pub fn create_on_conflict_do_nothing<C: GenericClient>(\n        &mut self,\n        db: &mut C,\n    ) -> Result<bool, postgres::Error> \x7b\n"
    ++ fs.createUnlessConflictBody ++ "    \x7d\n"

/-- The function that selects the record by its key. -/
def selectFunctionText (name : String) (deprecated : Bool) (f : SelectFunction) : String :=
  "\n    /// Selects the " ++ name ++ " with the given primary key.\n"
    ++ deprecationText deprecated "    "
    ++ "    pub fn get_by_pk<C: GenericClient>(\n        db: &mut C,\n        "
    ++ signatureText f.params
    ++ ",\n    ) -> Result<Option<Self>, postgres::Error> \x7b\n        let row = "
    ++ f.call.text ++ "        Ok(row.map(|row| Self \x7b\n" ++ filledText f.filled
    ++ "        \x7d))\n    \x7d\n"

/-- The function that selects the record, if there is one. -/
def selectText (fs : Functions) : String :=
  match fs.select with
  | none => ""
  | some f => selectFunctionText fs.name fs.deprecated f

/-- All functions of the record. -/
def text (fs : Functions) : String :=
  "impl " ++ fs.name ++ " \x7b\n" ++ fs.createText ++ fs.createUnlessConflictText ++ fs.selectText
    ++ "\x7d"

end Functions

/-! ## What the layout is filled with -/

/-- The names of fields, each with its position. -/
def positioned (fields : List Field) : List (String × Nat) :=
  (fields.map (·.name)).zipIdx

/-- The fields bound to the parameters of an insertion. -/
def boundFields (r : Record) : List String :=
  r.insertParams.map fun f => "self." ++ f.name

/-- The call that inserts a record. -/
def createCall (r : Record) : Call where
  method := if r.key.isGenerated then .queryOne else .execute
  sql := r.insert.text .fail
  bound := boundFields r

/-- The call that inserts a record unless it conflicts with a row. -/
def createUnlessConflictCall (r : Record) : Call where
  method := if r.key.isGenerated then .queryOpt else .execute
  sql := r.insert.text .doNothing
  bound := boundFields r

/-- The call that selects a record. -/
def selectCall (r : Record) (s : Select) : Call where
  method := .queryOpt
  sql := s.text
  bound := r.selectParams.map (·.1)

/-- The functions for a record. -/
def functionsOf (r : Record) (deprecated : Bool) : Functions where
  name := r.name
  deprecated := deprecated
  create := createCall r
  created := positioned r.insertScan
  createUnlessConflict := createUnlessConflictCall r
  createdUnlessConflict := positioned r.insertScan
  select := r.select?.map fun s =>
    { params := r.selectParams, call := selectCall r s, filled := positioned r.selectScan }

/-! ## The machine of the template -/

/-- The machine at the start of the template. -/
def startMachine (r : Record) (deprecated : Bool) : Machine where
  given := [("struct", .record r), ("deprecated", .bool deprecated)]
  frames := [{ source := .given }]
  lineage := [methodsTemplate]

/-- The body of the macro that binds fields. -/
def bindBody : List Stmt :=
  [.text "&[", Standard.each "f" (.name "fields")
    [.text "&self.", Standard.put "f" [], .text ", "], .text "]"]

/-- The macro that binds fields. -/
def bindValue : Value :=
  .macroOf { name := "bind", params := ["fields"], defaults := [], body := bindBody, closure := 0 }

/-- The machine once the macro is defined. -/
def machine (r : Record) (deprecated : Bool) : Machine :=
  { startMachine r deprecated with
    frames := [{ locals := [("bind", bindValue)], closure := some 0, source := .given }]
    closures := [[("f", .missing), ("bind", bindValue)]] }

section Rendering

variable {env : Environment} {run : Runner} (r : Record) (deprecated : Bool)

theorem exec_bindMacro :
    exec env run (startMachine r deprecated) Standard.bindMacro
      = .ok (machine r deprecated, "") := rfl

theorem writes_recordName : Writes env run (machine r deprecated) Standard.recordName r.name :=
  writes_emit rfl (hasValue_field (hasValue_name rfl) rfl) rfl

theorem writes_deprecation (indent : String) :
    Writes env run (machine r deprecated) (Standard.deprecation indent)
      (deprecationText deprecated indent) := by
  refine writes_cond (hasValue_name (v := .bool deprecated) rfl) ?_
  cases deprecated with
  | false => exact writesAll_nil
  | true => exact writesAll_singleton (writes_text rfl (indent ++ "#[deprecated]\n"))

/-- A template writes a function from its comment, which names the record, and its mark up to its
head, and then the rest. -/
theorem writesAll_documented (before after head : String) {stmts : List Stmt} {text : String}
    (h : WritesAll env run (machine r deprecated) stmts text) :
    WritesAll env run (machine r deprecated)
      (.text before :: Standard.recordName :: .text after :: Standard.deprecation "    "
        :: .text head :: stmts)
      (before ++ (r.name ++ (after ++ (deprecationText deprecated "    " ++ (head ++ text))))) :=
  writesAll_cons (writes_text rfl before) (writesAll_cons (writes_recordName r deprecated)
    (writesAll_cons (writes_text rfl after) (writesAll_cons (writes_deprecation r deprecated "    ")
      (writesAll_cons (writes_text rfl head) h))))

/-- A function of the record has its value. -/
theorem hasValue_forRecord {n : String} {f : Function} {w : Value} (hsuper : n ≠ "super")
    (hloop : n ≠ "loop") (hn : (machine r deprecated).lookup n = some (.function f))
    (hf : f.apply env.helpers [.record r] = .ok w) :
    HasValue env run (machine r deprecated) (Standard.forRecord n) w :=
  hasValue_function hsuper hloop hn (hasValue_name rfl) hf

/-- A text is shown as its literal. -/
theorem writes_putLiteral {m : Machine} (hloud : m.silent = false) {e : Expr} {text : String}
    (he : HasValue env run m e (.text text)) :
    Writes env run m (Standard.putLiteral e) (Text.stringLiteral text) :=
  writes_emit hloud (hasValue_filter he rfl) rfl

/-- The position in a loop is shown as a number. -/
theorem writes_index {m : Machine} (hloud : m.silent = false) {v : Value}
    {id index length : Nat} {previous next : Value} :
    Writes env run (m.within (loopFrame "f" v (.loop id index length previous next)))
      (Standard.put "loop" ["index0"]) (toString index) := by
  have hwithin :
      (m.within (loopFrame "f" v (.loop id index length previous next))).silent = false := hloud
  have hstate : HasValue env run (m.within (loopFrame "f" v (.loop id index length previous next)))
      (.name "loop") (.loop id index length previous next) := hasValue_name rfl
  have hindex : (Value.loop id index length previous next).field "index0" = .ok (.int index) := rfl
  have hshown : shown (.int index) = .ok (toString index) :=
    congrArg Except.ok String.ofList_toList
  exact writes_emit hwithin (hasValue_field hstate hindex) hshown

/-- The element of a loop over texts is shown as it is. -/
theorem writes_element {m : Machine} (hloud : m.silent = false) (element name : String)
    (state : Value) :
    Writes env run (m.within (loopFrame element (.text name) state))
      (Standard.put element []) name :=
  writes_emit (show (m.within (loopFrame element (.text name) state)).silent = false from hloud)
    (hasValue_element element (.text name) state) rfl

/-- Two texts that make up a third one. -/
theorem append_of_eq {a b c : String} (h : a ++ b = c) (rest : String) :
    a ++ (b ++ rest) = c ++ rest := by
  rw [← String.append_assoc, h]

/-- The texts of elements do not depend on their positions. -/
theorem lines_eq_join {α : Type} (line : α → String) (index : Nat) (items : List α) :
    lines (fun item _ => line item) index items = String.join (items.map line) := by
  have hitems := List.zipIdx_map_fst index items
  conv => rhs; rw [← hitems, List.map_map]
  rfl

/-- The macro gives the fields that it is called with, each as a field of the record. -/
theorem hasValue_bind {depth : Nat} {e : Expr} {names : List String}
    (he : HasValue env (runAt env (depth + 1)) (machine r deprecated) e (.texts names)) :
    HasValue env (runAt env (depth + 1)) (machine r deprecated)
      (.call (.name "bind") [.positional e]) (.text (boundText (names.map ("self." ++ ·)))) := by
  have hdepth : (machine r deprecated).depth + 6 ≤ Machine.depthLimit := by
    show 1 + 6 ≤ 500
    omega
  refine hasValue_macro (by decide) (by decide) rfl he hdepth ?_
  have hinner : ((machine r deprecated).inMacro 0 "fields" (.texts names)).silent = false := rfl
  have hloop : Writes env (runAt env depth)
      ((machine r deprecated).inMacro 0 "fields" (.texts names))
      (Standard.each "f" (.name "fields") [.text "&self.", Standard.put "f" [], .text ", "])
      (lines (fun name _ => "&self." ++ (name ++ ", ")) 0 names) := by
    refine writes_each (hasValue_name rfl) ?_ rfl fun name index previous next => ?_
    · show 1 + 4 + 2 < 500
      omega
    · exact writesAll_cons (writes_text rfl "&self.") (writesAll_cons
        (writes_element rfl "f" name _) (writesAll_singleton (writes_text rfl ", ")))
  have htext : "&[" ++ (lines (fun name _ => "&self." ++ (name ++ ", ")) 0 names ++ "]")
      = boundText (names.map ("self." ++ ·)) := by
    have hpath (name : String) : "&" ++ ("self." ++ (name ++ ", ")) = "&self." ++ (name ++ ", ") :=
      append_of_eq rfl _
    simp only [lines_eq_join, boundText, pathsText, List.map_map, Function.comp_def, hpath,
      String.append_assoc]
  rw [← htext]
  exact writesAll_cons (writes_text rfl "&[") (writesAll_cons hloop
    (writesAll_singleton (writes_text rfl "]")))

theorem storedText_positioned (indent : String) (fields : List Field) :
    lines (fun name j => indent ++ "self." ++ (name ++ (" = row.get(" ++ (toString j ++ ");\n")))) 0
        (fields.map (·.name))
      = storedText indent (positioned fields) := by
  simp only [lines, storedText, positioned, String.append_assoc]

variable (henv : env.helpers = {})

include henv

omit henv in
theorem depth_machine_lt : (machine r deprecated).depth < Machine.depthLimit := by
  show 1 < 500
  omega

/-- The assignments that store what comes back. -/
theorem writes_storing (indent : String) :
    Writes env run (machine r deprecated) (Standard.storing indent)
      (storedText indent (positioned r.insertScan)) := by
  have hscan : HasValue env run (machine r deprecated) (Standard.forRecord "create_insert_scan")
      (.texts (r.insertScan.map (·.name))) := by
    refine hasValue_forRecord r deprecated (by decide) (by decide) rfl ?_
    rw [henv]
    rfl
  rw [← storedText_positioned]
  refine writes_each hscan (depth_machine_lt r deprecated) rfl fun name index previous next => ?_
  exact writesAll_cons (writes_text rfl _) (writesAll_cons (writes_element rfl "f" name _)
    (writesAll_cons (writes_text rfl " = row.get(") (writesAll_cons (writes_index rfl)
      (writesAll_singleton (writes_text rfl ");\n")))))

/-- A call of the template, with what stands before and after it: the statement as a literal, and
the fields bound to its parameters. -/
theorem writesAll_call {depth : Nat} {opening n after : String} {f : Function} {rest : List Stmt}
    (front : String) (c : Call)
    (hopening : opening ++ "            " = front ++ "db." ++ c.method.name ++ "(\n            ")
    (hsuper : n ≠ "super") (hloop : n ≠ "loop")
    (hn : (machine r deprecated).lookup n = some (.function f))
    (hf : f.apply {} [.record r] = .ok (.text c.sql))
    (hbound : c.bound = boundFields r)
    (hrest : WritesAll env (runAt env (depth + 1)) (machine r deprecated) rest after) :
    WritesAll env (runAt env (depth + 1)) (machine r deprecated)
      (.text opening :: (Standard.insertion n ++ rest)) (front ++ c.text ++ after) := by
  have hsql : HasValue env (runAt env (depth + 1)) (machine r deprecated) (Standard.forRecord n)
      (.text c.sql) := by
    refine hasValue_forRecord r deprecated hsuper hloop hn ?_
    rw [henv]
    exact hf
  have hparams : HasValue env (runAt env (depth + 1)) (machine r deprecated)
      (Standard.forRecord "create_insert_params") (.texts (r.insertParams.map (·.name))) := by
    refine hasValue_forRecord r deprecated (by decide) (by decide) rfl ?_
    rw [henv]
    rfl
  have hbind : Writes env (runAt env (depth + 1)) (machine r deprecated)
      (.emit (.call (.name "bind") [.positional (Standard.forRecord "create_insert_params")]))
      (boundText c.bound) := by
    have hvalue := hasValue_bind r deprecated hparams
    rw [List.map_map] at hvalue
    rw [hbound]
    exact writes_emit rfl hvalue rfl
  have htext : front ++ c.text ++ after = opening ++ ("            " ++ (Text.stringLiteral c.sql
      ++ (",\n            " ++ (boundText c.bound ++ (",\n        )?;\n" ++ after))))) := by
    rw [append_of_eq hopening]
    simp only [Call.text, String.append_assoc]
  rw [htext]
  exact writesAll_cons (writes_text rfl _) (writesAll_cons (writes_text rfl _)
    (writesAll_cons (writes_putLiteral rfl hsql) (writesAll_cons (writes_text rfl _)
      (writesAll_cons hbind (writesAll_cons (writes_text rfl _) hrest)))))

theorem writes_createBody (depth : Nat) :
    Writes env (runAt env (depth + 1)) (machine r deprecated)
      (.cond (Standard.path "struct" ["auto_gen_pk"])
        (Standard.joinTexts ([.text "        let row = db.query_one(\n"]
          ++ Standard.insertion "create_insert_sql" ++ [Standard.storing "        "]))
        (Standard.joinTexts ([.text "        db.execute(\n"]
          ++ Standard.insertion "create_insert_sql")))
      (functionsOf r deprecated).createBody := by
  refine writes_cond (b := r.key.isGenerated) (hasValue_field (hasValue_name rfl) rfl) ?_
  have hbody : (functionsOf r deprecated).createBody
      = (if (createCall r).method = .execute then "        " else "        let row = ")
        ++ (createCall r).text ++ storedText "        " (positioned r.insertScan) := rfl
  rw [hbody]
  cases hgenerated : r.key.isGenerated with
  | true =>
    have hmethod : (createCall r).method = .queryOne := by rw [createCall, hgenerated]; rfl
    rw [hmethod, if_neg (by decide : Method.queryOne ≠ .execute)]
    exact (writesAll_call r deprecated henv "        let row = " (createCall r)
      (by rw [hmethod]; rfl) (by decide) (by decide) rfl rfl rfl
      (writesAll_singleton (writes_storing r deprecated henv "        "))).joinTexts
  | false =>
    -- nothing comes back, so that the layout stores nothing
    have hmethod : (createCall r).method = .execute := by rw [createCall, hgenerated]; rfl
    have hscan : positioned r.insertScan = [] := by rw [insertScan, hgenerated]; rfl
    rw [hmethod, if_pos (rfl : Method.execute = .execute), hscan]
    exact (writesAll_call r deprecated henv "        " (createCall r)
      (by rw [hmethod]; rfl) (by decide) (by decide) rfl rfl rfl writesAll_nil).joinTexts

/-- The template writes the function that inserts the record. -/
theorem writesAll_createFunction (depth : Nat) :
    WritesAll env (runAt env (depth + 1)) (machine r deprecated) Standard.createFunction
      (functionsOf r deprecated).createText := by
  delta Functions.createText
  simp only [String.append_assoc]
  exact writesAll_documented r deprecated _ _ _
    (writesAll_cons (writes_createBody r deprecated henv depth)
      (writesAll_singleton (writes_text rfl _)))

theorem writes_createUnlessConflictBody (depth : Nat) :
    Writes env (runAt env (depth + 1)) (machine r deprecated)
      (.cond (Standard.path "struct" ["auto_gen_pk"])
        (Standard.joinTexts ([.text "        let row = db.query_opt(\n"]
          ++ Standard.insertion "create_insert_on_conflict_do_nothing_sql"
          ++ [.text "        match row \x7b\n            Some(row) => \x7b\n",
            Standard.storing "                ",
            .text "                Ok(true)\n            \x7d\n            None => Ok(false),\n        \x7d\n"]))
        (Standard.joinTexts ([.text "        let affected = db.execute(\n"]
          ++ Standard.insertion "create_insert_on_conflict_do_nothing_sql"
          ++ [.text "        Ok(affected > 0)\n"])))
      (functionsOf r deprecated).createUnlessConflictBody := by
  refine writes_cond (b := r.key.isGenerated) (hasValue_field (hasValue_name rfl) rfl) ?_
  delta Functions.createUnlessConflictBody
  have hcall : (functionsOf r deprecated).createUnlessConflict = createUnlessConflictCall r := rfl
  rw [hcall]
  cases hgenerated : r.key.isGenerated with
  | true =>
    have hmethod : (createUnlessConflictCall r).method = .queryOpt := by
      rw [createUnlessConflictCall, hgenerated]; rfl
    rw [hmethod, if_neg (by decide : Method.queryOpt ≠ .execute)]
    exact (writesAll_call r deprecated henv "        let row = " (createUnlessConflictCall r)
      (by rw [hmethod]; rfl) (by decide) (by decide) rfl rfl rfl
      (writesAll_cons (writes_text rfl _) (writesAll_cons
        (writes_storing r deprecated henv "                ")
        (writesAll_singleton (writes_text rfl _))))).joinTexts
  | false =>
    have hmethod : (createUnlessConflictCall r).method = .execute := by
      rw [createUnlessConflictCall, hgenerated]; rfl
    rw [hmethod, if_pos (rfl : Method.execute = .execute)]
    exact (writesAll_call r deprecated henv "        let affected = " (createUnlessConflictCall r)
      (by rw [hmethod]; rfl) (by decide) (by decide) rfl rfl rfl
      (writesAll_singleton (writes_text rfl _))).joinTexts

/-- The template writes the function that inserts the record unless it conflicts. -/
theorem writesAll_createUnlessConflictFunction (depth : Nat) :
    WritesAll env (runAt env (depth + 1)) (machine r deprecated)
      Standard.createUnlessConflictFunction
      (functionsOf r deprecated).createUnlessConflictText := by
  delta Functions.createUnlessConflictText
  simp only [String.append_assoc]
  exact writesAll_documented r deprecated _ _ _
    (writesAll_cons (writes_createUnlessConflictBody r deprecated henv depth)
      (writesAll_singleton (writes_text rfl _)))

theorem writes_signature :
    Writes env run (machine r deprecated)
      (.emit (Standard.forRecord "create_select_by_pk_func_params"))
      (signatureText r.selectParams) := by
  refine writes_emit rfl (hasValue_forRecord r deprecated (by decide) (by decide) rfl ?_)
    (rfl : shown (.text (signatureText r.selectParams)) = _)
  rw [henv]
  rfl

omit henv in
theorem ofRecord_record (f : Record → Except Fault Value) : ofRecord [.record r] f = f r := rfl

theorem writes_selectSql {s : Select} (hs : r.select? = some s) :
    Writes env run (machine r deprecated)
      (Standard.putLiteral (Standard.forRecord "create_select_by_pk_sql"))
      (Text.stringLiteral s.text) := by
  refine writes_putLiteral rfl (hasValue_forRecord r deprecated (by decide) (by decide) rfl ?_)
  rw [henv]
  simp only [Function.apply, ofRecord_record, hs, Option.map_some]

theorem writes_selectParams :
    Writes env run (machine r deprecated)
      (Standard.each "p" (Standard.forRecord "create_select_by_pk_sql_params")
        [.text "&", Standard.put "p" [], .text ", "])
      (lines (fun name _ => "&" ++ (name ++ ", ")) 0 (r.selectParams.map (·.1))) := by
  have hparams : HasValue env run (machine r deprecated)
      (Standard.forRecord "create_select_by_pk_sql_params")
      (.texts (r.selectParams.map (·.1))) := by
    refine hasValue_forRecord r deprecated (by decide) (by decide) rfl ?_
    rw [henv]
    rfl
  refine writes_each hparams (depth_machine_lt r deprecated) rfl fun name index previous next => ?_
  exact writesAll_cons (writes_text rfl "&") (writesAll_cons (writes_element rfl "p" name _)
    (writesAll_singleton (writes_text rfl ", ")))

theorem writes_filled :
    Writes env run (machine r deprecated)
      (Standard.each "f" (Standard.forRecord "create_select_by_pk_scan")
        [.text "            ", Standard.put "f" [], .text ": row.get(",
          Standard.put "loop" ["index0"], .text "),\n"])
      (filledText (positioned r.selectScan)) := by
  have hscan : HasValue env run (machine r deprecated)
      (Standard.forRecord "create_select_by_pk_scan") (.texts (r.selectScan.map (·.name))) := by
    refine hasValue_forRecord r deprecated (by decide) (by decide) rfl ?_
    rw [henv]
    rfl
  have htext : filledText (positioned r.selectScan) = lines (fun name j =>
      "            " ++ (name ++ (": row.get(" ++ (toString j ++ "),\n")))) 0
        (r.selectScan.map (·.name)) := by
    simp only [lines, filledText, positioned, String.append_assoc]
  rw [htext]
  refine writes_each hscan (depth_machine_lt r deprecated) rfl fun name index previous next => ?_
  exact writesAll_cons (writes_text rfl _) (writesAll_cons (writes_element rfl "f" name _)
    (writesAll_cons (writes_text rfl _) (writesAll_cons (writes_index rfl)
      (writesAll_singleton (writes_text rfl _)))))

omit henv in
/-- The text of the call that selects a record, as the template cuts it. -/
theorem selectCall_text (s : Select) (after : String) :
    (selectCall r s).text ++ after
      = "db.query_opt(\n            " ++ (Text.stringLiteral s.text ++ (",\n            &["
        ++ (lines (fun name _ => "&" ++ (name ++ ", ")) 0 (r.selectParams.map (·.1))
          ++ ("],\n        )?;\n" ++ after)))) := by
  have hname :
      "db." ++ (Method.queryOpt.name ++ "(\n            ") = "db.query_opt(\n            " := rfl
  have hopening (rest : String) :
      ",\n            " ++ ("&[" ++ rest) = ",\n            &[" ++ rest := append_of_eq rfl rest
  have hclosing (rest : String) :
      "]" ++ (",\n        )?;\n" ++ rest) = "],\n        )?;\n" ++ rest := append_of_eq rfl rest
  simp only [Call.text, selectCall, boundText, pathsText, lines_eq_join, String.append_assoc,
    hopening, hclosing]
  rw [← hname]
  simp only [String.append_assoc]

/-- The template writes the function that selects the record, if it has a key. -/
theorem writes_selectFunction :
    Writes env run (machine r deprecated) Standard.selectFunction
      (functionsOf r deprecated).selectText := by
  refine writes_cond (b := r.hasKey) (hasValue_field (hasValue_name rfl) rfl) ?_
  delta Functions.selectText
  cases hkey : r.hasKey with
  | false =>
    have hselect : (functionsOf r deprecated).select = none := by
      rw [functionsOf, select?, hkey]
      rfl
    rw [hselect]
    exact writesAll_nil
  | true =>
    have hs := select?_of_hasKey hkey
    have hselect : (functionsOf r deprecated).select = r.select?.map fun s =>
        { params := r.selectParams
          call := selectCall r s
          filled := positioned r.selectScan } := rfl
    rw [hs, Option.map_some] at hselect
    -- the template cuts its text at other places than the layout
    have hopening (rest : String) :
        ",\n    ) -> Result<Option<Self>, postgres::Error> \x7b\n        let row = "
          ++ ("db.query_opt(\n            " ++ rest)
        = ",\n    ) -> Result<Option<Self>, postgres::Error> \x7b\n        let row = db.query_opt(\n            "
          ++ rest := append_of_eq rfl rest
    have hclosing (rest : String) :
        "],\n        )?;\n" ++ ("        Ok(row.map(|row| Self \x7b\n" ++ rest)
        = "],\n        )?;\n        Ok(row.map(|row| Self \x7b\n" ++ rest := append_of_eq rfl rest
    rw [hselect]
    delta Functions.selectFunctionText
    simp only [String.append_assoc, selectCall_text, hopening, hclosing]
    exact writesAll_documented r deprecated _ _ _
      (writesAll_cons (writes_signature r deprecated henv) (writesAll_cons (writes_text rfl _)
        (writesAll_cons (writes_selectSql r deprecated henv hs) (writesAll_cons (writes_text rfl _)
          (writesAll_cons (writes_selectParams r deprecated henv)
            (writesAll_cons (writes_text rfl _) (writesAll_cons (writes_filled r deprecated henv)
              (writesAll_singleton (writes_text rfl _)))))))))

/-- The statements of the template write the functions one after the other. -/
theorem execAll_methods (depth : Nat) :
    execAll env (runAt env (depth + 1)) (startMachine r deprecated) Standard.methods.body
      = .ok (machine r deprecated, (functionsOf r deprecated).text) := by
  have hmacro : execAll env (runAt env (depth + 1)) (startMachine r deprecated)
      [Standard.bindMacro] = .ok (machine r deprecated, "") := by
    rw [execAll, exec_bindMacro]
    rfl
  have hheader : WritesAll env (runAt env (depth + 1)) (machine r deprecated)
      [.text "impl ", Standard.recordName, .text " \x7b\n"] ("impl " ++ (r.name ++ " \x7b\n")) :=
    writesAll_cons (writes_text rfl _) (writesAll_cons (writes_recordName r deprecated)
      (writesAll_singleton (writes_text rfl _)))
  have hend : WritesAll env (runAt env (depth + 1)) (machine r deprecated)
      [Standard.selectFunction, .text "\x7d"] ((functionsOf r deprecated).selectText ++ "\x7d") :=
    writesAll_cons (writes_selectFunction r deprecated henv)
      (writesAll_singleton (writes_text rfl _))
  have hall := execAll_append (execAll_append (execAll_append (execAll_append hmacro hheader)
    (writesAll_createFunction r deprecated henv depth))
    (writesAll_createUnlessConflictFunction r deprecated henv depth)) hend
  have htext : (functionsOf r deprecated).text
      = "" ++ ("impl " ++ (r.name ++ " \x7b\n")) ++ (functionsOf r deprecated).createText
        ++ (functionsOf r deprecated).createUnlessConflictText
        ++ ((functionsOf r deprecated).selectText ++ "\x7d") := by
    delta Functions.text
    simp only [String.append_assoc, String.empty_append]
    rfl
  rw [htext]
  exact (execAll_joinTexts _).trans hall

/-- The standard template for functions writes their layout. -/
theorem render_methods :
    env.render methodsTemplate Standard.methods
        [("struct", .record r), ("deprecated", .bool deprecated)]
      = .ok (functionsOf r deprecated).text := by
  have hall : execAll env (runAt env (998 + 1)) (startMachine r deprecated) Standard.methods.body
      = .ok (machine r deprecated, (functionsOf r deprecated).text) :=
    execAll_methods r deprecated henv 998
  have hrun : runAt env (999 + 1) { body := Standard.methods.body } (startMachine r deprecated)
      = .ok (machine r deprecated, (functionsOf r deprecated).text) :=
    runAt_of_execAll rfl hall rfl
  exact congrArg (fun outcome : Outcome => outcome >>= fun result => pure result.2) hrun

end Rendering

/-- The standard template writes the layout of the functions, whatever the record. -/
theorem renderRecord_methods (r : Record) (deprecated : Bool) :
    (Renderer.standard {} Formatter.passthrough).renderRecord methodsTemplate r deprecated
      = .ok (functionsOf r deprecated).text := by
  let env : Environment := (Renderer.standard {} Formatter.passthrough).environment
  have hrender : env.render methodsTemplate Standard.methods
      [("struct", .record r), ("deprecated", .bool deprecated)]
        = .ok (functionsOf r deprecated).text := render_methods r deprecated rfl
  have hlookup : env.templates.lookup methodsTemplate = some Standard.methods := rfl
  rw [Renderer.renderRecord, Renderer.render]
  simp only [env] at hlookup hrender
  simp only [hlookup, hrender]
  rfl

end RowBindings.Generation
