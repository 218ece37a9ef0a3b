import RowBindings.Template.Tree

/-!
# The standard templates

The templates that are always at hand: for the record of a table, for the functions that insert and
select it, and for the type of an enumeration. Each is given as the statements that its text is read
as; the source that a piece writes stands in the comment before it.
-/

namespace RowBindings.Template.Standard

/-- `{{ name.field.field }}` as an expression. -/
def path (name : String) (fields : List String) : Expr :=
  fields.foldl .field (.name name)

/-- Shows a value. -/
def put (name : String) (fields : List String) : Stmt :=
  .emit (path name fields)

/-- Shows a value as a string literal. -/
def putLiteral (e : Expr) : Stmt :=
  .emit (.filter "rust_str" e [])

/-- Shows the name of the record. -/
def recordName : Stmt := put "struct" ["name"]

/-- Shows the name of the enumeration. -/
def enumName : Stmt := put "enum" ["name"]

/-- A function called for the record. -/
def forRecord (function : String) : Expr :=
  .call (.name function) [.positional (.name "struct")]

/-- Runs a body for each element. -/
def each (element : String) (iter : Expr) (body : List Stmt) : Stmt :=
  .each (.name element) iter none body []

/-- A mark that stands only if the item is deprecated. -/
def deprecation (indent : String) : Stmt :=
  .cond (.name "deprecated") [.text (indent ++ "#[deprecated]\n")] []

/-- Statements with texts next to each other as one text, as they are when they are read. -/
def joinTexts : List Stmt → List Stmt
  | [] => []
  | .text a :: rest =>
    match joinTexts rest with
    | .text b :: more => .text (a ++ b) :: more
    | more => .text a :: more
  | s :: rest => s :: joinTexts rest

/-! ## The record -/

/-- The template for the record of a table:
```
/// NAME represents SCHEMA.TABLE
#[derive(Debug, Clone, PartialEq)]
pub struct NAME {
    /// COLUMN
    pub FIELD: TYPE,
}
```
-/
def record : Tree where
  body := [
    .text "/// ", recordName, .text " represents ", put "struct" ["table", "schema"], .text ".",
    put "struct" ["table", "name"], .text "\n",
    deprecation "",
    .text "#[derive(Debug, Clone, PartialEq)]\npub struct ", recordName, .text " \x7b\n",
    each "f" (path "struct" ["fields"]) [
      .text "    /// ", put "f" ["column", "name"],
      .text "\n    pub ", put "f" ["name"], .text ": ", put "f" ["type"], .text ",\n"],
    .text "\x7d"]

/-! ## The functions -/

/-- `&[&self.FIELD, ]`: the values bound to the parameters of a statement. -/
def bindMacro : Stmt :=
  .define "bind" ["fields"] [] [
    .text "&[", each "f" (.name "fields") [.text "&self.", put "f" [], .text ", "], .text "]"]

/-- The arguments of a call that sends a statement, for one that inserts:
```
            "STATEMENT",
            &[&self.FIELD, ],
        )?;
```
-/
def insertion (function : String) : List Stmt := [
  .text "            ", putLiteral (forRecord function),
  .text ",\n            ",
  .emit (.call (.name "bind") [.positional (forRecord "create_insert_params")]),
  .text ",\n        )?;\n"]

/-- Stores what comes back, a line for each field: `self.FIELD = row.get(POSITION);` -/
def storing (indent : String) : Stmt :=
  each "f" (forRecord "create_insert_scan") [
    .text (indent ++ "self."), put "f" [], .text " = row.get(", put "loop" ["index0"],
    .text ");\n"]

/-- The function that inserts the record:
```
    /// Inserts the NAME into the database.
    pub fn create<C: GenericClient>(&mut self, db: &mut C) -> Result<(), postgres::Error> {
        let row = db.query_one(
            "STATEMENT",
            &[&self.FIELD, ],
        )?;
        self.FIELD = row.get(POSITION);
        Ok(())
    }
```
Without a generated key the statement is sent by `db.execute` and nothing comes back.
-/
def createFunction : List Stmt := [
  .text "    /// Inserts the ", recordName, .text " into the database.\n",
  deprecation "    ",
  .text "    pub fn create<C: GenericClient>(&mut self, db: &mut C) -> Result<(), postgres::Error> \x7b\n",
  .cond (path "struct" ["auto_gen_pk"])
    (joinTexts ([.text "        let row = db.query_one(\n"] ++ insertion "create_insert_sql"
      ++ [storing "        "]))
    (joinTexts ([.text "        db.execute(\n"] ++ insertion "create_insert_sql")),
  .text "        Ok(())\n    \x7d\n\n"]

/-- The function that inserts the record unless there is a row in conflict with it. -/
def createUnlessConflictFunction : List Stmt := [
  .text "    /// Inserts the ", recordName,
  .text " unless it conflicts with an existing row.\n    /// Returns `false` when the insert was skipped.\n",
  deprecation "    ",
  .text "    pub fn create_on_conflict_do_nothing<C: GenericClient>(\n        &mut self,\n        db: &mut C,\n    ) -> Result<bool, postgres::Error> \x7b\n",
  .cond (path "struct" ["auto_gen_pk"])
    (joinTexts ([.text "        let row = db.query_opt(\n"]
      ++ insertion "create_insert_on_conflict_do_nothing_sql"
      ++ [.text "        match row \x7b\n            Some(row) => \x7b\n",
        storing "                ",
        .text "                Ok(true)\n            \x7d\n            None => Ok(false),\n        \x7d\n"]))
    (joinTexts ([.text "        let affected = db.execute(\n"]
      ++ insertion "create_insert_on_conflict_do_nothing_sql"
      ++ [.text "        Ok(affected > 0)\n"])),
  .text "    \x7d\n"]

/-- The function that selects the record by its key, if there is one. -/
def selectFunction : Stmt :=
  .cond (path "struct" ["has_primary_key"]) [
    .text "\n    /// Selects the ", recordName, .text " with the given primary key.\n",
    deprecation "    ",
    .text "    pub fn get_by_pk<C: GenericClient>(\n        db: &mut C,\n        ",
    .emit (forRecord "create_select_by_pk_func_params"),
    .text ",\n    ) -> Result<Option<Self>, postgres::Error> \x7b\n        let row = db.query_opt(\n            ",
    putLiteral (forRecord "create_select_by_pk_sql"),
    .text ",\n            &[",
    each "p" (forRecord "create_select_by_pk_sql_params") [
      .text "&", put "p" [], .text ", "],
    .text "],\n        )?;\n        Ok(row.map(|row| Self \x7b\n",
    each "f" (forRecord "create_select_by_pk_scan") [
      .text "            ", put "f" [], .text ": row.get(", put "loop" ["index0"], .text "),\n"],
    .text "        \x7d))\n    \x7d\n"] []

/-- The template for the functions of a record. -/
def methods : Tree where
  body := joinTexts
    ([bindMacro, .text "impl ", recordName, .text " \x7b\n"]
      ++ createFunction ++ createUnlessConflictFunction
      ++ [selectFunction, .text "\x7d"])

/-! ## The enumeration -/

/-- The type of an enumeration, with a variant for each label. -/
def enumDeclaration : List Stmt := [
  .text "/// ", enumName, .text " represents ", put "enum" ["pg_enum", "schema"], .text ".",
  put "enum" ["pg_enum", "name"], .text "\n",
  deprecation "",
  .text "#[derive(Debug, Clone, Copy, PartialEq, Eq, Hash, ToSql, FromSql)]\n#[postgres(name = ",
  putLiteral (path "enum" ["pg_enum", "name"]),
  .text ")]\npub enum ", enumName, .text " \x7b\n",
  each "v" (path "enum" ["values"]) [
    .text "    /// ", put "v" ["name"],
    .text "\n    #[postgres(name = ", putLiteral (path "v" ["value"]),
    .text ")]\n    ", put "v" ["variant"], .text ",\n"],
  .text "\x7d\n\n"]

/-- The name for columns that may be null. -/
def nullableAlias : List Stmt := [
  .text "/// Nullable ", enumName, .text "\n",
  deprecation "",
  .text "pub type ", put "enum" ["nullable_name"], .text " = Option<", enumName, .text ">;\n\n"]

/-- The function that gives the label of a variant. -/
def labelFunction : List Stmt := [
  .text "impl ", enumName, .text " \x7b\n    /// Label as stored in the database\n",
  deprecation "    ",
  .text "    pub const fn as_str(&self) -> &'static str \x7b\n        match *self \x7b\n",
  each "v" (path "enum" ["values"]) [
    .text "            Self::", put "v" ["variant"], .text " => ", putLiteral (path "v" ["value"]),
    .text ",\n"],
  .text "        \x7d\n    \x7d\n\x7d"]

/-- The template for the type of an enumeration. -/
def enumeration : Tree where
  body := joinTexts (enumDeclaration ++ nullableAlias ++ labelFunction)

end RowBindings.Template.Standard
