import RowBindings.Catalog.PrimaryKey
import RowBindings.TypeMap.RuleSet
import RowBindings.Identifier

/-!
# Records

The record that stands for a row of a table: one field per column, in the order of the columns, with
the primary key of the table.
-/

namespace RowBindings.Model

open Catalog TypeMap

/-- A field of a record, with the column it stands for. -/
structure Field where
  name : String
  type : String
  column : Column
  deriving DecidableEq, Repr

/-- The record for a table. -/
structure Record where
  name : String
  table : Table
  key : PrimaryKey
  fields : List Field
  deriving DecidableEq, Repr

namespace Record

/-- Whether the table has a primary key. -/
def hasKey (r : Record) : Bool :=
  !r.key.isEmpty

/-- The fields of the key columns, in the order of the columns. -/
def keyFields (r : Record) : List Field :=
  r.key.indices.filterMap (r.fields[·]?)

/-- The field for a column. -/
def fieldOf (rules : RuleSet) (c : Column) : Field :=
  { name := Identifier.fieldName c.name
    type := rules.resolve c.dataType c.notNull
    column := c }

/-- The record for a table. -/
def ofTable (rules : RuleSet) (policy : KeyPolicy) (t : Table) : Record :=
  { name := Identifier.typeName t.name
    table := t
    key := .ofColumns policy t.columns
    fields := t.columns.map (fieldOf rules) }

end Record

end RowBindings.Model
