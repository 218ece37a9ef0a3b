import RowBindings.Catalog.Basic
import RowBindings.TypeMap.RuleSet
import RowBindings.Identifier

/-!
# Enumerations

The generated type for an enumeration type of the database: one variant per label, in order, with
names that never collide. Each such type also gets a type rule, so that columns of it resolve to the
generated type.
-/

namespace RowBindings.Model

open Catalog TypeMap

/-- The variant for one label. -/
structure Variant where
  /-- The name of the type it belongs to. -/
  typeName : String
  /-- The name with that of the type in front. -/
  name : String
  variant : String
  /-- The label in the database. -/
  value : String
  deriving DecidableEq, Repr

/-- The generated type for an enumeration type. -/
structure EnumModel where
  name : String
  /-- The name used for columns that may be null. -/
  nullableName : String
  source : Enumeration
  values : List Variant
  deriving DecidableEq, Repr

/-- The name used for columns of an enumeration type that may be null. -/
def nullableName (typeName : String) : String :=
  "Null" ++ typeName

/-- The `k`-th name to try: the base itself, then the base with `2`, `3` and so on after it. -/
def candidate (base : String) (k : Nat) : String :=
  if k ≤ 1 then base else base ++ toString k

/-- The first name to try that is not used. One of the first `used.length + 1` is free. -/
def freshName (used : List String) (base : String) : String :=
  let tries := (List.range' 1 (used.length + 1)).map (candidate base)
  (tries.find? fun name => !used.contains name).getD base

/-- The variant names for labels, `used` being the names given out before, last first. -/
def variantNames (used : List String) : List String → List String
  | [] => []
  | label :: rest =>
    let name := freshName used (Identifier.typeName label)
    name :: variantNames (name :: used) rest

namespace EnumModel

/-- The generated type for an enumeration type. -/
def ofEnumeration (e : Enumeration) : EnumModel :=
  let name := Identifier.typeName e.name
  { name
    nullableName := Model.nullableName name
    source := e
    values := (e.labels.zip (variantNames [] e.labels)).map fun (label, variant) =>
      { typeName := name, name := name ++ "_" ++ variant, variant, value := label } }

/-- The type rule for an enumeration type. -/
def rule (m : EnumModel) : Rule :=
  { name := m.source.name
    dbTypes := [m.source.dbType]
    notNullType := m.name
    nullableType := m.nullableName }

/-- The rule set with the rules of enumeration types added. A type whose name already is the name of
a rule adds none. -/
def register (rules : RuleSet) (models : List EnumModel) : RuleSet :=
  models.foldl (fun s m => if s.contains m.source.name then s else s.push m.rule) rules

end EnumModel

/-- The generated types for enumeration types, and the rule set with their rules added. -/
def enumModels (rules : RuleSet) (enums : List Enumeration) : List EnumModel × RuleSet :=
  let models := enums.map EnumModel.ofEnumeration
  (models, EnumModel.register rules models)

end RowBindings.Model
