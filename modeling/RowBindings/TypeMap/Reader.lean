import RowBindings.Document.Reader
import RowBindings.TypeMap.RuleSet

/-!
# Rule sets as documents

A document lists the rules in its entry `rule`, one table each. Other entries, of the document and
of its tables, mean nothing.
-/

namespace RowBindings.TypeMap

open Document

/-- The text of a node that is one. -/
def textOf? : Node → Option String
  | .text s => some s
  | _ => none

/-- The texts of a list of them. -/
def textsOf? : Node → Option (List String)
  | .list _ items => items.mapM textOf?
  | _ => none

/-- A rule written as a table, or as a list of the four parts in their order. -/
def Rule.ofNode? (node : Node) : Option Rule := do
  let parts ← match node with
    | .table _ entries =>
      ["name", "db_types", "not_null_type", "nullable_type"].mapM (entries.lookup ·)
    | .list _ items => some items
    | _ => none
  match parts with
  | name :: dbTypes :: notNullType :: nullableType :: _ =>
    return { name := ← textOf? name, dbTypes := ← textsOf? dbTypes,
             notNullType := ← textOf? notNullType, nullableType := ← textOf? nullableType }
  | _ => none

/-- The rules that a document lists. A document without any lists none. -/
def rulesOfNode? (root : Node) : Option (List Rule) :=
  match root.valueAt? "rule" with
  | none => some []
  | some (.list _ items) => items.mapM Rule.ofNode?
  | some _ => none

/-- The rule set that a document describes. -/
def RuleSet.ofText (text : String) : Except RuleError RuleSet :=
  match (read? text).bind rulesOfNode? with
  | none => .error .unreadable
  | some rules => RuleSet.ofRules rules

end RowBindings.TypeMap
