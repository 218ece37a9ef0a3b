import RowBindings.Model.Enumeration
import RowBindings.Model.Record
import RowBindings.Number.Shortest
import RowBindings.Template.Fault
import RowBindings.Template.Tree
import RowBindings.Text.StringLiteral

/-!
# Values

What the expressions of a template stand for. A record is a value of its own, so that statements can
be made for it; what else templates see of the model are lists, maps and texts. Entries of maps keep
the order in which they were made.
-/

namespace RowBindings.Template

/-- The functions that templates can call. -/
inductive Function
  | range
  | dict
  | insertText
  | insertIgnoringText
  | insertParams
  | insertScan
  | selectText
  | selectSignature
  | selectParams
  | selectScan
  deriving DecidableEq, Repr

/-- A macro, with the place where its free names are looked up. -/
structure Macro where
  name : String
  params : List String
  defaults : List Expr
  body : List Stmt
  closure : Nat
  deriving Repr

/-- A value. -/
inductive Value
  /-- No value. It cannot be used, except that a silent one is shown as nothing. -/
  | undefined (silent : Bool)
  | none
  | bool (b : Bool)
  | int (n : Int)
  | float (x : Float)
  | text (s : String)
  | list (items : List Value)
  | map (entries : List (Value × Value))
  /-- The named arguments of a call. -/
  | keywords (entries : List (String × Value))
  | record (r : Model.Record)
  | macroOf (m : Macro)
  /-- What another template defines, and the text it writes. -/
  | definitions (entries : List (String × Value)) (text : String)
  /-- The state of a loop: its number, the position, the number of elements and the neighbours. -/
  | loop (id index length : Nat) (previous next : Value)
  | function (f : Function)

namespace Value

/-- No value. -/
def missing : Value := undefined false

/-- A map whose keys are texts. -/
def object (entries : List (String × Value)) : Value :=
  map (entries.map fun (k, v) => (text k, v))

/-- A list of texts. -/
def texts (ts : List String) : Value :=
  list (ts.map text)

/-- Whether there is no value. -/
def isUndefined : Value → Bool
  | undefined _ => true
  | _ => false

/-! ## The model as values -/

/-- A column. -/
def ofColumn (c : Catalog.Column) : Value :=
  object [("ordinal", int c.ordinal), ("name", text c.name), ("data_type", text c.dataType),
    ("ddl_type", text c.ddlType), ("not_null", bool c.notNull),
    ("default_value", match c.defaultValue with
      | some d => text d
      | Option.none => none),
    ("is_primary_key", bool c.isPrimaryKey), ("identity", text c.identity.name)]

/-- A table. -/
def ofTable (t : Catalog.Table) : Value :=
  object [("schema", text t.schema), ("name", text t.name), ("kind", text t.kind),
    ("columns", list (t.columns.map ofColumn))]

/-- A field. -/
def ofField (f : Model.Field) : Value :=
  object [("name", text f.name), ("type", text f.type), ("column", ofColumn f.column)]

/-- What a record has. -/
def recordEntries (r : Model.Record) : List (String × Value) := [
  ("name", text r.name), ("table", ofTable r.table), ("fields", list (r.fields.map ofField)),
  ("primary_keys", list (r.keyFields.map ofField)), ("auto_gen_pk", bool r.key.isGenerated),
  ("has_primary_key", bool r.hasKey)]

/-- The generated type for an enumeration type. -/
def ofEnumModel (m : Model.EnumModel) : Value :=
  object [("name", text m.name), ("nullable_name", text m.nullableName),
    ("pg_enum", object [("schema", text m.source.schema), ("name", text m.source.name),
      ("db_type", text m.source.dbType), ("values", texts m.source.labels)]),
    ("values", list (m.values.map fun v =>
      object [("type_name", text v.typeName), ("name", text v.name), ("variant", text v.variant),
        ("value", text v.value)]))]

/-! ## Text -/

/-- The name of a truth value. -/
def boolText (b : Bool) : String :=
  if b then "True" else "False"

/-- Texts between brackets. -/
def bracketed (opening closing : Char) (items : List (List Char)) : List Char :=
  opening :: Text.joinWith [',', ' '] items ++ [closing]

mutual

/-- A value as part of another one, given what a record looks like: texts are quoted. -/
def quotedWith (ofRecord : Model.Record → List Char) : Value → List Char
  | undefined _ => "undefined".toList
  | none => "None".toList
  | bool b => (boolText b).toList
  | int n => (toString n).toList
  | float x => Number.scaledText x
  | text s => Text.literal s.toList
  | list items => bracketed '[' ']' (quotedItems ofRecord items)
  | map entries => bracketed '\x7b' '\x7d' (quotedPairs ofRecord entries)
  | keywords entries => bracketed '\x7b' '\x7d' (quotedEntries ofRecord entries)
  | record r => ofRecord r
  | macroOf m => "<macro ".toList ++ m.name.toList ++ ['>']
  | definitions _ s => s.toList
  | loop _ index length _ _ => ("<loop " ++ toString index ++ "/" ++ toString length ++ ">").toList
  | function _ => "<function>".toList

/-- The elements of a list. -/
def quotedItems (ofRecord : Model.Record → List Char) : List Value → List (List Char)
  | [] => []
  | v :: rest => quotedWith ofRecord v :: quotedItems ofRecord rest

/-- The entries of a map. -/
def quotedPairs (ofRecord : Model.Record → List Char) : List (Value × Value) → List (List Char)
  | [] => []
  | (k, v) :: rest =>
    (quotedWith ofRecord k ++ ':' :: ' ' :: quotedWith ofRecord v) :: quotedPairs ofRecord rest

/-- Named entries. -/
def quotedEntries (ofRecord : Model.Record → List Char) :
    List (String × Value) → List (List Char)
  | [] => []
  | (k, v) :: rest =>
    (Text.literal k.toList ++ ':' :: ' ' :: quotedWith ofRecord v) :: quotedEntries ofRecord rest

end

/-- A record looks like the map of what it has, none of which is a record. -/
def quotedRecord (r : Model.Record) : List Char :=
  quotedWith (fun _ => []) (object (recordEntries r))

/-- A value as part of another one. -/
def quoted (v : Value) : List Char :=
  quotedWith quotedRecord v

/-- A value as text. -/
def toText : Value → String
  | undefined _ => ""
  | text s => s
  | float x => String.ofList (Number.plainText x)
  | v => String.ofList v.quoted

end Value

end RowBindings.Template
