import RowBindings.Model.Record
import RowBindings.Statement.Basic

/-!
# The statements for a record

What is sent to insert a record and to select it by its key, together with the fields bound to the
parameters and the fields that receive what comes back. Parameters are numbered in the order of the
columns. A key that the database generates is not bound but given back.
-/

namespace RowBindings.Model.Record

open Statement

/-- The fields bound to the parameters of an insertion, in order. -/
def insertParams (r : Record) : List Field :=
  (r.fields.zipIdx.filter fun (_, i) => !(r.key.isGenerated && r.key.contains i)).map (·.1)

/-- The fields that receive what an insertion gives back, in order. -/
def insertScan (r : Record) : List Field :=
  if r.key.isGenerated then r.keyFields else []

/-- The columns of fields. -/
def columnNames (fields : List Field) : List String :=
  fields.map (·.column.name)

/-- The fields paired with parameters numbered from one. -/
def numbered (fields : List Field) : List (String × Nat) :=
  (columnNames fields).zipIdx 1

/-- What is inserted: the bound fields or, if the generated key is all there is, a default for each
of its columns. -/
def insertCells (r : Record) : List (String × Cell) :=
  if r.insertParams.isEmpty && r.key.isGenerated then
    (columnNames r.keyFields).map fun name => (name, .default)
  else
    (numbered r.insertParams).map fun (name, k) => (name, .parameter k)

/-- The insertion of a record. -/
def insert (r : Record) : Insert :=
  { table := r.table.name, cells := r.insertCells, returning := columnNames r.insertScan }

/-- The fields filled from a selected row, in order. -/
def selectScan (r : Record) : List Field :=
  r.fields

/-- The name of the `i`-th parameter of the function that selects by key. -/
def keyParamName (i : Nat) : String :=
  "pk" ++ toString i

/-- The parameters of the function that selects by key: names and types. -/
def selectParams (r : Record) : List (String × String) :=
  r.keyFields.zipIdx.map fun (f, i) => (keyParamName i, f.type)

/-- The selection of a record by its key. A record without a key has none. -/
def select? (r : Record) : Option Select :=
  if r.hasKey then
    some { columns := columnNames r.selectScan
           table := r.table.name
           conditions := numbered r.keyFields }
  else none

end RowBindings.Model.Record
