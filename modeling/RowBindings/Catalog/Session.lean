import RowBindings.Catalog.Basic
import RowBindings.Catalog.TypeText

/-!
# Reading a schema from a database

A schema is read with three kinds of queries: its enumeration types, its tables, and then the
columns of each table. A session answers queries, or fails on one; reading stops at the first
failure. The queries sent are part of the result, in order.
-/

namespace RowBindings.Catalog

/-- A question put to the database. -/
inductive Query
  | enumerations (schema : String)
  | tables (schema : String)
  | columns (schema table : String)
  deriving DecidableEq, Repr

/-- The rows that a database returns for each query, and the query it fails on, if any. The types
in a column row are as the catalog writes them, modifiers included. -/
structure Session where
  enumerationRows : String → List Enumeration
  tableRows : String → List (String × String)
  columnRows : String → String → List Column
  failing : Option Query

/-- A schema could not be read because a query failed. -/
structure QueryFailure where
  schema : String
  query : Query
  deriving DecidableEq, Repr

/-- What is said about a failed query. -/
def QueryFailure.message (f : QueryFailure) : String :=
  match f.query with
  | .enumerations _ => "Failed to query enums"
  | .tables _ => "Failed to query tables"
  | .columns _ table => "Failed to query columns for table '" ++ table ++ "'"

namespace Session

/-- A column as the rest of the program sees it: both types without modifiers. -/
def loadColumn (c : Column) : Column :=
  { c with dataType := stripModifiers c.dataType, ddlType := stripModifiers c.ddlType }

/-- Sends a query: whether it succeeds. -/
def answers (s : Session) (q : Query) : Bool :=
  s.failing != some q

/-- Reads the tables listed, sending one query for the columns of each. -/
def readTables (s : Session) (schema : String) :
    List (String × String) → Except QueryFailure (List Table) × List Query
  | [] => (.ok [], [])
  | (name, kind) :: rest =>
    let q := Query.columns schema name
    if s.answers q then
      let table : Table :=
        { schema, name, kind, columns := (s.columnRows schema name).map loadColumn }
      let (tables, queries) := s.readTables schema rest
      (tables.map (table :: ·), q :: queries)
    else
      (.error ⟨schema, q⟩, [q])

/-- Reads a schema: the result, and the queries sent. -/
def readSchema (s : Session) (schema : String) : Except QueryFailure Schema × List Query :=
  let enums := Query.enumerations schema
  let tables := Query.tables schema
  if !s.answers enums then (.error ⟨schema, enums⟩, [enums])
  else if !s.answers tables then (.error ⟨schema, tables⟩, [enums, tables])
  else
    let (read, queries) := s.readTables schema (s.tableRows schema)
    (read.map fun ts => { name := schema, tables := ts, enumerations := s.enumerationRows schema },
      enums :: tables :: queries)

end Session

end RowBindings.Catalog
