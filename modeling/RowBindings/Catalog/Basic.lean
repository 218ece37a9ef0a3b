/-!
# The catalog of a database

Tables with their columns, and enumeration types with their labels, as the catalog of a database
lists them. Order matters everywhere: columns and labels keep the order of the catalog.
-/

namespace RowBindings.Catalog

/-- How an identity column gets its values. -/
inductive Identity
  | none
  | always
  | byDefault
  deriving DecidableEq, Repr

/-- Reads the code that the catalog keeps for a column. -/
def Identity.ofCode (code : String) : Identity :=
  if code = "a" then .always else if code = "d" then .byDefault else .none

/-- Whether the column is an identity column at all. -/
def Identity.isIdentity (i : Identity) : Bool :=
  i != .none

/-- The name of the mode. -/
def Identity.name : Identity → String
  | .none => "none"
  | .always => "always"
  | .byDefault => "by_default"

/-- A column of a table. -/
structure Column where
  /-- The position within the table, counted from one. -/
  ordinal : Int
  name : String
  /-- The type without its modifiers, such as `character varying`. -/
  dataType : String
  /-- The type as declared, such as `serial`; it tells which keys the database generates. -/
  ddlType : String
  notNull : Bool
  defaultValue : Option String
  isPrimaryKey : Bool
  identity : Identity
  deriving DecidableEq, Repr

/-- A table. -/
structure Table where
  schema : String
  name : String
  /-- The kind of relation; `r` for an ordinary table. -/
  kind : String
  columns : List Column
  deriving DecidableEq, Repr

/-- The name of a table with that of its schema. -/
def Table.qualifiedName (t : Table) : String :=
  t.schema ++ "." ++ t.name

/-- An enumeration type. -/
structure Enumeration where
  schema : String
  name : String
  /-- The type as the catalog writes it for columns. -/
  dbType : String
  labels : List String
  deriving DecidableEq, Repr

/-- A schema: its tables and enumeration types. -/
structure Schema where
  name : String
  tables : List Table
  enumerations : List Enumeration
  deriving DecidableEq, Repr

end RowBindings.Catalog
