import RowBindings.Generation.Package
import RowBindings.Proofs.Generation.Functions
import RowBindings.Proofs.Text.Lines

/-!
# The lines of generated source

The generated file as a list of lines: comments, which hold names of the database as they are, and
lines of code. A line of code is one that the templates hold, or one whose other parts are names,
types, positions and string literals. Which lines there are is said for each piece of the file.
-/

namespace RowBindings.Generation

open Model Model.Record Template

/-! ## Lines -/

/-- A line of code. -/
inductive CodeLine
  /-- A line without parts of its own. -/
  | fixed (text : String)
  /-- The name that something has in the database. -/
  | databaseName (depth : Nat) (name : String)
  | enumHead (name : String)
  | variant (name : String)
  /-- The name for columns that may be null. -/
  | nullable (synonym name : String)
  | implHead (name : String)
  /-- The label of a variant. -/
  | label (name value : String)
  | recordHead (name : String)
  | field (name type : String)
  /-- A statement that is sent. -/
  | statement (sql : String)
  /-- The fields bound to a statement. -/
  | boundFields (fields : List String)
  /-- The parameters of a function bound to a statement. -/
  | boundKeys (count : Nat)
  /-- A field that is stored from a position. -/
  | stored (depth : Nat) (field : String) (position : Nat)
  /-- The parameters of a function, by their types. -/
  | keyParams (types : List String)
  /-- A field of a record that is filled from a position. -/
  | filled (field : String) (position : Nat)
  deriving DecidableEq, Repr

/-- Blanks before a line. -/
def indentation (depth : Nat) : String :=
  String.ofList (List.replicate (4 * depth) ' ')

/-- A line of code as it is written. -/
def CodeLine.text : CodeLine → String
  | .fixed text => text
  | .databaseName depth name =>
    indentation depth ++ "#[postgres(name = " ++ Text.stringLiteral name ++ ")]"
  | .enumHead name => "pub enum " ++ name ++ " \x7b"
  | .variant name => "    " ++ name ++ ","
  | .nullable synonym name => "pub type " ++ synonym ++ " = Option<" ++ name ++ ">;"
  | .implHead name => "impl " ++ name ++ " \x7b"
  | .label name value =>
    "            Self::" ++ name ++ " => " ++ Text.stringLiteral value ++ ","
  | .recordHead name => "pub struct " ++ name ++ " \x7b"
  | .field name type => "    pub " ++ name ++ ": " ++ type ++ ","
  | .statement sql => "            " ++ Text.stringLiteral sql ++ ","
  | .boundFields fields => "            " ++ boundText (fields.map ("self." ++ ·)) ++ ","
  | .boundKeys count => "            " ++ boundText ((List.range count).map keyParamName) ++ ","
  | .stored depth name position =>
    indentation depth ++ "self." ++ name ++ " = row.get(" ++ toString position ++ ");"
  | .keyParams types =>
    "        " ++ signatureText (((List.range types.length).map keyParamName).zip types) ++ ","
  | .filled name position => "            " ++ name ++ ": row.get(" ++ toString position ++ "),"

/-- The name that a line of code declares. -/
def CodeLine.declared? : CodeLine → Option String
  | .enumHead name | .recordHead name => some name
  | .nullable synonym _ => some synonym
  | _ => none

namespace CodeLine

@[simp] theorem text_fixed (text : String) : (fixed text).text = text := rfl

@[simp] theorem text_databaseName (depth : Nat) (name : String) :
    (databaseName depth name).text
      = indentation depth ++ "#[postgres(name = " ++ Text.stringLiteral name ++ ")]" := rfl

@[simp] theorem text_enumHead (name : String) :
    (enumHead name).text = "pub enum " ++ name ++ " \x7b" := rfl

@[simp] theorem text_variant (name : String) : (variant name).text = "    " ++ name ++ "," := rfl

@[simp] theorem text_nullable (synonym name : String) :
    (nullable synonym name).text = "pub type " ++ synonym ++ " = Option<" ++ name ++ ">;" := rfl

@[simp] theorem text_implHead (name : String) :
    (implHead name).text = "impl " ++ name ++ " \x7b" := rfl

@[simp] theorem text_label (name value : String) :
    (label name value).text
      = "            Self::" ++ name ++ " => " ++ Text.stringLiteral value ++ "," := rfl

@[simp] theorem text_recordHead (name : String) :
    (recordHead name).text = "pub struct " ++ name ++ " \x7b" := rfl

@[simp] theorem text_field (name type : String) :
    (field name type).text = "    pub " ++ name ++ ": " ++ type ++ "," := rfl

@[simp] theorem text_statement (sql : String) :
    (statement sql).text = "            " ++ Text.stringLiteral sql ++ "," := rfl

@[simp] theorem text_boundFields (fields : List String) :
    (boundFields fields).text
      = "            " ++ boundText (fields.map ("self." ++ ·)) ++ "," := rfl

@[simp] theorem text_boundKeys (count : Nat) :
    (boundKeys count).text
      = "            " ++ boundText ((List.range count).map keyParamName) ++ "," := rfl

@[simp] theorem text_stored (depth : Nat) (name : String) (position : Nat) :
    (stored depth name position).text
      = indentation depth ++ "self." ++ name ++ " = row.get(" ++ toString position ++ ");" := rfl

@[simp] theorem text_keyParams (types : List String) :
    (keyParams types).text = "        "
      ++ signatureText (((List.range types.length).map keyParamName).zip types) ++ "," := rfl

@[simp] theorem text_filled (name : String) (position : Nat) :
    (filled name position).text
      = "            " ++ name ++ ": row.get(" ++ toString position ++ ")," := rfl

end CodeLine

/-- A line of generated source. -/
inductive SourceLine
  | code (line : CodeLine)
  | comment (text : String)
  deriving DecidableEq, Repr

theorem indentation_toList (depth : Nat) :
    (indentation depth).toList = List.replicate (4 * depth) ' ' :=
  String.toList_ofList

namespace SourceLine

/-- A line as it is written. -/
def text : SourceLine → String
  | .code line => line.text
  | .comment text => text

/-- The code of a line. -/
def code? : SourceLine → Option CodeLine
  | .code line => some line
  | .comment _ => none

/-- The text of a comment. -/
def comment? : SourceLine → Option String
  | .code _ => none
  | .comment text => some text

/-- A line that the templates hold as it is. -/
def fixed (text : String) : SourceLine := code (.fixed text)

/-- An empty line. -/
def blank : SourceLine := fixed ""

@[simp] theorem text_code (line : CodeLine) : (code line).text = line.text := rfl

@[simp] theorem text_comment (text : String) : (comment text).text = text := rfl

@[simp] theorem text_fixed (text : String) : (fixed text).text = text := rfl

@[simp] theorem text_blank : blank.text = "" := rfl

end SourceLine

/-- Lines as they are written. -/
def sourceText (ls : List SourceLine) : String :=
  "\n".intercalate (ls.map (·.text))

/-- Lines, each with its end. -/
def blockText (ls : List SourceLine) : String :=
  String.join (ls.map fun l => l.text ++ "\n")

/-- The lines of code among lines. -/
def codeOf (ls : List SourceLine) : List CodeLine :=
  ls.filterMap SourceLine.code?

/-- The comments among lines. -/
def commentsOf (ls : List SourceLine) : List String :=
  ls.filterMap SourceLine.comment?

/-! ## The lines of the pieces -/

open SourceLine

/-- The mark of a deprecated item. -/
def deprecation (deprecated : Bool) (indent : String) : List SourceLine :=
  if deprecated then [fixed (indent ++ "#[deprecated]")] else []

/-- The type of an enumeration. -/
def enumDeclarationLines (m : EnumModel) (deprecated : Bool) : List SourceLine :=
  comment ("/// " ++ m.name ++ " represents " ++ m.source.schema ++ "." ++ m.source.name)
  :: deprecation deprecated ""
  ++ [fixed "#[derive(Debug, Clone, Copy, PartialEq, Eq, Hash, ToSql, FromSql)]",
    code (.databaseName 0 m.source.name), code (.enumHead m.name)]
  ++ m.values.flatMap (fun v => [comment ("    /// " ++ v.name), code (.databaseName 1 v.value),
    code (.variant v.variant)])
  ++ [fixed "\x7d", blank]

/-- The name for columns of an enumeration that may be null. -/
def nullableLines (m : EnumModel) (deprecated : Bool) : List SourceLine :=
  comment ("/// Nullable " ++ m.name) :: deprecation deprecated ""
  ++ [code (.nullable m.nullableName m.name), blank]

/-- The function that gives the label of a variant. -/
def labelFunctionLines (m : EnumModel) (deprecated : Bool) : List SourceLine :=
  [code (.implHead m.name), comment "    /// Label as stored in the database"]
  ++ deprecation deprecated "    "
  ++ [fixed "    pub const fn as_str(&self) -> &'static str \x7b",
    fixed "        match *self \x7b"]
  ++ m.values.map (fun v => code (.label v.variant v.value))
  ++ [fixed "        \x7d", fixed "    \x7d", fixed "\x7d"]

/-- The piece for an enumeration. -/
def enumLines (m : EnumModel) (deprecated : Bool) : List SourceLine :=
  enumDeclarationLines m deprecated ++ nullableLines m deprecated ++ labelFunctionLines m deprecated

/-- The record for a table. -/
def recordLines (r : Record) (deprecated : Bool) : List SourceLine :=
  comment ("/// " ++ r.name ++ " represents " ++ r.table.schema ++ "." ++ r.table.name)
  :: deprecation deprecated ""
  ++ [fixed "#[derive(Debug, Clone, PartialEq)]", code (.recordHead r.name)]
  ++ r.fields.flatMap (fun f => [comment ("    /// " ++ f.column.name), code (.field f.name f.type)])
  ++ [fixed "\x7d"]

/-- The arguments of a call that sends an insertion. -/
def insertionLines (r : Record) (onConflict : Statement.OnConflict) : List SourceLine :=
  [code (.statement (r.insert.text onConflict)),
    code (.boundFields (r.insertParams.map (·.name))), fixed "        )?;"]

/-- The assignments that store what comes back. -/
def storedLines (depth : Nat) (r : Record) : List SourceLine :=
  (positioned r.insertScan).map fun (f, j) => code (.stored depth f j)

/-- The function that inserts a record. -/
def createLines (r : Record) (deprecated : Bool) : List SourceLine :=
  comment ("    /// Inserts the " ++ r.name ++ " into the database.")
  :: deprecation deprecated "    "
  ++ [fixed "    pub fn create<C: GenericClient>(&mut self, db: &mut C) -> Result<(), postgres::Error> \x7b"]
  ++ (if r.key.isGenerated then
    fixed "        let row = db.query_one(" :: insertionLines r .fail ++ storedLines 2 r
    else fixed "        db.execute(" :: insertionLines r .fail)
  ++ [fixed "        Ok(())", fixed "    \x7d", blank]

/-- The function that inserts a record unless there is a row in conflict with it. -/
def createUnlessConflictLines (r : Record) (deprecated : Bool) : List SourceLine :=
  [comment ("    /// Inserts the " ++ r.name ++ " unless it conflicts with an existing row."),
    comment "    /// Returns `false` when the insert was skipped."]
  ++ deprecation deprecated "    "
  ++ [fixed "    pub fn create_on_conflict_do_nothing<C: GenericClient>(",
    fixed "        &mut self,", fixed "        db: &mut C,",
    fixed "    ) -> Result<bool, postgres::Error> \x7b"]
  ++ (if r.key.isGenerated then
    fixed "        let row = db.query_opt(" :: insertionLines r .doNothing
    ++ [fixed "        match row \x7b", fixed "            Some(row) => \x7b"] ++ storedLines 4 r
    ++ [fixed "                Ok(true)", fixed "            \x7d",
      fixed "            None => Ok(false),", fixed "        \x7d"]
    else fixed "        let affected = db.execute(" :: insertionLines r .doNothing
    ++ [fixed "        Ok(affected > 0)"])
  ++ [fixed "    \x7d"]

/-- The function that selects a record by its key. -/
def selectLines (r : Record) (deprecated : Bool) (s : Statement.Select) : List SourceLine :=
  [blank, comment ("    /// Selects the " ++ r.name ++ " with the given primary key.")]
  ++ deprecation deprecated "    "
  ++ [fixed "    pub fn get_by_pk<C: GenericClient>(", fixed "        db: &mut C,",
    code (.keyParams (r.keyFields.map (·.type))),
    fixed "    ) -> Result<Option<Self>, postgres::Error> \x7b",
    fixed "        let row = db.query_opt(", code (.statement s.text),
    code (.boundKeys r.keyFields.length), fixed "        )?;",
    fixed "        Ok(row.map(|row| Self \x7b"]
  ++ (positioned r.selectScan).map (fun (f, j) => code (.filled f j))
  ++ [fixed "        \x7d))", fixed "    \x7d"]

/-- The functions for a record. -/
def functionLines (r : Record) (deprecated : Bool) : List SourceLine :=
  code (.implHead r.name) :: createLines r deprecated ++ createUnlessConflictLines r deprecated
  ++ r.select?.elim [] (selectLines r deprecated)
  ++ [fixed "\x7d"]

/-! ## Code and comments -/

section Parts

variable (line : CodeLine) (text : String) (ls : List SourceLine)

@[simp] theorem codeOf_nil : codeOf [] = [] := rfl

@[simp] theorem codeOf_code : codeOf (.code line :: ls) = line :: codeOf ls := rfl

@[simp] theorem codeOf_fixed : codeOf (.fixed text :: ls) = .fixed text :: codeOf ls := rfl

@[simp] theorem codeOf_blank : codeOf (.blank :: ls) = .fixed "" :: codeOf ls := rfl

@[simp] theorem codeOf_comment : codeOf (.comment text :: ls) = codeOf ls := rfl

@[simp] theorem codeOf_append (before after : List SourceLine) :
    codeOf (before ++ after) = codeOf before ++ codeOf after :=
  List.filterMap_append

@[simp] theorem codeOf_flatMap {α : Type} (items : List α) (f : α → List SourceLine) :
    codeOf (items.flatMap f) = items.flatMap fun item => codeOf (f item) := by
  induction items with
  | nil => rfl
  | cons item items ih => rw [List.flatMap_cons, codeOf_append, ih, List.flatMap_cons]

@[simp] theorem codeOf_map {α : Type} (items : List α) (f : α → CodeLine) :
    codeOf (items.map fun item => .code (f item)) = items.map f := by
  rw [codeOf, List.filterMap_map]
  exact congrFun List.filterMap_eq_map items

@[simp] theorem commentsOf_nil : commentsOf [] = [] := rfl

@[simp] theorem commentsOf_code : commentsOf (.code line :: ls) = commentsOf ls := rfl

@[simp] theorem commentsOf_fixed : commentsOf (.fixed text :: ls) = commentsOf ls := rfl

@[simp] theorem commentsOf_blank : commentsOf (.blank :: ls) = commentsOf ls := rfl

@[simp] theorem commentsOf_comment : commentsOf (.comment text :: ls) = text :: commentsOf ls := rfl

@[simp] theorem commentsOf_append (before after : List SourceLine) :
    commentsOf (before ++ after) = commentsOf before ++ commentsOf after :=
  List.filterMap_append

@[simp] theorem commentsOf_flatMap {α : Type} (items : List α) (f : α → List SourceLine) :
    commentsOf (items.flatMap f) = items.flatMap fun item => commentsOf (f item) := by
  induction items with
  | nil => rfl
  | cons item items ih => rw [List.flatMap_cons, commentsOf_append, ih, List.flatMap_cons]

@[simp] theorem commentsOf_map {α : Type} (items : List α) (f : α → CodeLine) :
    commentsOf (items.map fun item => .code (f item)) = [] :=
  List.filterMap_eq_nil_iff.2 fun l hl => by
    obtain ⟨item, -, rfl⟩ := List.mem_map.1 hl
    rfl

end Parts

/-! ## Texts of lines -/

theorem blockText_nil : blockText [] = "" := rfl

theorem blockText_cons (l : SourceLine) (ls : List SourceLine) :
    blockText (l :: ls) = l.text ++ ("\n" ++ blockText ls) := by
  rw [blockText, List.map_cons, String.join_cons, String.append_assoc]
  rfl

theorem blockText_append (before after : List SourceLine) :
    blockText (before ++ after) = blockText before ++ blockText after := by
  rw [blockText, List.map_append, String.join_append]
  rfl

theorem blockText_flatMap {α : Type} (items : List α) (f : α → List SourceLine) :
    blockText (items.flatMap f) = String.join (items.map fun item => blockText (f item)) := by
  induction items with
  | nil => rfl
  | cons item items ih =>
    rw [List.flatMap_cons, blockText_append, ih, List.map_cons, String.join_cons]

/-- The last line has no end. -/
theorem sourceText_singleton (l : SourceLine) : sourceText [l] = l.text :=
  String.intercalate_singleton

theorem sourceText_cons_cons (l next : SourceLine) (ls : List SourceLine) :
    sourceText (l :: next :: ls) = l.text ++ ("\n" ++ sourceText (next :: ls)) :=
  String.intercalate_cons_cons.trans String.append_assoc

/-- Lines before others each have their end. -/
theorem sourceText_append_cons (before : List SourceLine) (next : SourceLine)
    (after : List SourceLine) :
    sourceText (before ++ next :: after) = blockText before ++ sourceText (next :: after) := by
  induction before with
  | nil => rw [List.nil_append, blockText_nil, String.empty_append]
  | cons l before ih =>
    rw [blockText_cons, String.append_assoc, String.append_assoc, ← ih]
    cases before with
    | nil => exact sourceText_cons_cons l next after
    | cons other before => exact sourceText_cons_cons l other _

/-- All lines have their end when the last one gets its own. -/
theorem sourceText_newline {ls : List SourceLine} (h : ls ≠ []) :
    sourceText ls ++ "\n" = blockText ls := by
  induction ls with
  | nil => exact absurd rfl h
  | cons l ls ih =>
    cases ls with
    | nil => rw [sourceText_singleton, blockText_cons, blockText_nil, String.append_empty]
    | cons next ls =>
      rw [sourceText_cons_cons, blockText_cons, String.append_assoc, String.append_assoc,
        ih (List.cons_ne_nil next ls)]

theorem sourceText_append {before after : List SourceLine} (hbefore : before ≠ [])
    (hafter : after ≠ []) :
    sourceText (before ++ after) = sourceText before ++ "\n" ++ sourceText after := by
  obtain ⟨next, rest, rfl⟩ := List.exists_cons_of_ne_nil hafter
  rw [sourceText_append_cons, sourceText_newline hbefore]

/-- Pieces one after the other are the lines of all of them. -/
theorem sourceText_flatten {pieces : List (List SourceLine)} (h : ∀ piece ∈ pieces, piece ≠ []) :
    sourceText pieces.flatten = "\n".intercalate (pieces.map sourceText) := by
  have htexts : ∀ texts ∈ pieces.map (List.map SourceLine.text), texts ≠ [] := by
    intro texts htexts
    obtain ⟨piece, hpiece, rfl⟩ := List.mem_map.1 htexts
    exact mt List.map_eq_nil_iff.1 (h piece hpiece)
  rw [sourceText, List.map_flatten, Text.intercalate_flatten htexts, List.map_map]
  rfl

end RowBindings.Generation
