import RowBindings.Catalog.Selection
import RowBindings.Generation.Renderer
import RowBindings.TypeMap.Builtin

/-!
# The generated package

The generated file: a header, then a piece for each enumeration and one for each selected table, in
the order of the schema. The first piece that fails is the failure of the whole.
-/

namespace RowBindings.Generation

open Catalog Model Template TypeMap

/-- What is generated, and how. -/
structure Config where
  /-- The schema to read. -/
  schema : String := "public"
  /-- The name of the package, for the header. -/
  package : String := "dao"
  rules : RuleSet := .builtin
  keyPolicy : KeyPolicy := {}
  selection : Selection := {}
  /-- The tables and enumerations that are marked as deprecated. -/
  deprecated : List String := []
  /-- Replaces the templates for tables. -/
  custom : Option String := none
  /-- Replaces the template for enumerations. -/
  customEnum : Option String := none
  includeEnums : Bool := true
  /-- Whether the pieces are formatted. -/
  format : Bool := true

/-- The first line of every generated file. -/
def marker : String := "// Code generated by pgdao. DO NOT EDIT."

namespace Config

/-- The enumerations that pieces are made for. -/
def enumerations (c : Config) (s : Schema) : List Enumeration :=
  if c.includeEnums then s.enumerations else []

/-- The tables that pieces are made for. -/
def tables (c : Config) (s : Schema) : List Table :=
  s.tables.filter fun t => c.selection.selects t.name

/-- The types for the enumerations. -/
def enumModels (c : Config) (s : Schema) : List EnumModel :=
  (Model.enumModels c.rules (c.enumerations s)).1

/-- The rules that the columns are resolved by: those for the enumerations come last. -/
def allRules (c : Config) (s : Schema) : RuleSet :=
  (Model.enumModels c.rules (c.enumerations s)).2

/-- The records for the tables. -/
def records (c : Config) (s : Schema) : List Record :=
  (c.tables s).map (Record.ofTable (c.allRules s) c.keyPolicy)

/-- The imports of the generated file. -/
def imports (c : Config) (s : Schema) : List String :=
  (if c.custom.isNone then ["use postgres::GenericClient;"] else [])
    ++ (if !(c.enumModels s).isEmpty && c.customEnum.isNone then
      ["use postgres_types::\x7bFromSql, ToSql\x7d;"] else [])

/-- The header of the generated file. -/
def header (c : Config) (s : Schema) : String :=
  let imports := c.imports s
  marker ++ "\n\n//! Package `" ++ c.package ++ "`: data access for the `" ++ s.name
    ++ "` schema.\n\n"
    ++ if imports.isEmpty then "" else "\n".intercalate imports ++ "\n\n"

/-- The piece for an enumeration. -/
def enumPiece (c : Config) (r : Renderer) (m : EnumModel) : Except Failure String :=
  r.renderEnum m (c.deprecated.contains m.source.name)

/-- The piece for a table: that of the custom template, or the record and its functions. -/
def tablePiece (c : Config) (r : Renderer) (record : Record) : Except Failure String := do
  let deprecated := c.deprecated.contains record.table.name
  if c.custom.isSome then r.renderRecord customTemplate record deprecated
  else
    let declaration ← r.renderRecord recordTemplate record deprecated
    let methods ← r.renderRecord methodsTemplate record deprecated
    return declaration ++ "\n" ++ methods

/-- The renderer for a configuration; `formatter` is used only if pieces are to be formatted. -/
def renderer (c : Config) (helpers : Helpers) (formatter : Formatter) : Except Failure Renderer :=
  Renderer.new helpers (if c.format then formatter else .passthrough) c.custom c.customEnum

/-- The generated file for a schema. -/
def generate (c : Config) (helpers : Helpers) (formatter : Formatter) (s : Schema) :
    Except Failure String := do
  let r ← c.renderer helpers formatter
  let enums ← (c.enumModels s).mapM (c.enumPiece r)
  let tables ← (c.records s).mapM (c.tablePiece r)
  return c.header s ++ "\n".intercalate (enums ++ tables)

end Config

end RowBindings.Generation
