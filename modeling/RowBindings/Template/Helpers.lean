import RowBindings.Statement.OfRecord

/-!
# Statement helpers

What the functions of a template say about a record: the statements for it and the fields bound to
them. Each can be replaced by another.
-/

namespace RowBindings.Template

open Model Statement

/-- The functions that templates call for a record. -/
structure Helpers where
  insertText : Record → String := fun r => r.insert.text .fail
  insertIgnoringText : Record → String := fun r => r.insert.text .doNothing
  insertParams : Record → List Field := Record.insertParams
  insertScan : Record → List Field := Record.insertScan
  selectText : Record → Option String := fun r => r.select?.map Select.text
  selectSignature : Record → List (String × String) := Record.selectParams
  selectParams : Record → List String := fun r => r.selectParams.map (·.1)
  selectScan : Record → List Field := Record.selectScan

end RowBindings.Template
