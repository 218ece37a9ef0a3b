import RowBindings.Catalog.Basic

/-!
# Primary keys

Which columns form the key of a table, and whether the database fills the key in on insertion. It
does so only if it generates every column of the key.
-/

namespace RowBindings.Catalog

/-- Which key columns the database generates. -/
structure KeyPolicy where
  /-- Declared types whose columns are filled in by the database. -/
  generatedTypes : List String := ["smallserial", "serial", "bigserial", "autogenuuid"]
  /-- Whether identity columns are filled in by the database too. -/
  identityIsGenerated : Bool := false
  deriving DecidableEq, Repr

/-- Whether the database generates the values of a column. -/
def KeyPolicy.generates (policy : KeyPolicy) (c : Column) : Bool :=
  policy.generatedTypes.contains c.ddlType
    || (policy.identityIsGenerated && c.identity.isIdentity)

/-- The primary key of a table. -/
structure PrimaryKey where
  /-- Positions of the key columns within the table, ascending. -/
  indices : List Nat
  /-- The database generates every column of the key, and there is at least one. -/
  isGenerated : Bool
  deriving DecidableEq, Repr

namespace PrimaryKey

/-- Whether a table has no key. -/
def isEmpty (key : PrimaryKey) : Bool :=
  key.indices.isEmpty

/-- Whether the column at a position belongs to the key. -/
def contains (key : PrimaryKey) (index : Nat) : Bool :=
  key.indices.contains index

/-- The key of a table with the given columns. -/
def ofColumns (policy : KeyPolicy) (columns : List Column) : PrimaryKey :=
  let keyColumns := columns.zipIdx.filter fun (c, _) => c.isPrimaryKey
  { indices := keyColumns.map (·.2)
    isGenerated := !keyColumns.isEmpty && keyColumns.all fun (c, _) => policy.generates c }

end PrimaryKey

end RowBindings.Catalog
