/-!
# Selection of tables

Which tables code is generated for: those on the list to include, if there is one, and not on the
list to exclude.
-/

namespace RowBindings.Catalog

/-- The tables to include and to exclude. Without a list there is no restriction. -/
structure Selection where
  included : Option (List String) := none
  excluded : Option (List String) := none
  deriving DecidableEq, Repr

/-- Whether a table of this name is selected. -/
def Selection.selects (s : Selection) (table : String) : Bool :=
  (match s.included with
    | some names => names.contains table
    | none => true)
  && match s.excluded with
    | some names => !names.contains table
    | none => true

end RowBindings.Catalog
