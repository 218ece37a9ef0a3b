import RowBindings.Template.Reader
import RowBindings.Template.Rendering
import RowBindings.Template.Standard

/-!
# Pieces of generated source

Fills in a template for a record or an enumeration and passes the text through a formatter. There
are three standard templates; a custom one may replace those for records, and another one that for
enumerations.
-/

namespace RowBindings.Generation

open Model Template

/-- A formatter puts source text into shape, or refuses it. -/
abbrev Formatter := String → Option String

/-- The formatter that changes nothing. -/
def Formatter.passthrough : Formatter := some

/-- The names of the templates. -/
def recordTemplate : String := "struct"

@[inherit_doc recordTemplate]
def methodsTemplate : String := "method"

@[inherit_doc recordTemplate]
def enumTemplate : String := "enum"

@[inherit_doc recordTemplate]
def customTemplate : String := "custom"

@[inherit_doc recordTemplate]
def customEnumTemplate : String := "custom_enum"

/-- Why there is no piece for an item. -/
inductive Failure
  /-- A template cannot be read, or there is none of its name. -/
  | template (item : String) (fault : Fault)
  | rendering (item : String) (fault : Fault)
  /-- The formatter refuses the text. -/
  | format (item fragment : String)
  deriving DecidableEq, Repr

/-- What the failure happened to. -/
def Failure.item : Failure → String
  | template item _ => item
  | rendering item _ => item
  | format item _ => item

/-- What is said about a failure to render. -/
def Failure.message : Failure → String
  | template _ fault => "Template error: " ++ fault.message
  | rendering _ fault => "Render error: " ++ fault.message
  | format .. => "Format error"

/-- What pieces are made with. -/
structure Renderer where
  environment : Environment
  formatter : Formatter

namespace Renderer

/-- A renderer with the standard templates. -/
def standard (helpers : Helpers) (formatter : Formatter) : Renderer :=
  { environment :=
      { templates := [(recordTemplate, Standard.record), (methodsTemplate, Standard.methods),
          (enumTemplate, Standard.enumeration)]
        helpers }
    formatter }

/-- Adds a template under a name. -/
def addTemplate (r : Renderer) (name source : String) : Except Failure Renderer :=
  match Tree.ofText source with
  | .error fault => .error (.template name fault)
  | .ok t => .ok { r with environment :=
      { r.environment with templates := r.environment.templates ++ [(name, t)] } }

/-- Adds a template under a name, if there is one. -/
def addOptional (r : Renderer) (name : String) : Option String → Except Failure Renderer
  | none => .ok r
  | some source => r.addTemplate name source

/-- The renderer for a choice of custom templates. -/
def new (helpers : Helpers) (formatter : Formatter) (custom customEnum : Option String) :
    Except Failure Renderer := do
  let r ← (standard helpers formatter).addOptional customTemplate custom
  r.addOptional customEnumTemplate customEnum

/-- Whether there is a template of this name. -/
def has (r : Renderer) (name : String) : Bool :=
  (r.environment.templates.lookup name).isSome

/-- Fills in a template for an item. -/
def render (r : Renderer) (template item : String) (given : List (String × Value)) :
    Except Failure String :=
  match r.environment.templates.lookup template with
  | none => .error (.template item .templateNotFound)
  | some t =>
    match r.environment.render template t given with
    | .error fault => .error (.rendering item fault)
    | .ok text =>
      match r.formatter text with
      | none => .error (.format item text)
      | some formatted => .ok formatted

/-- A template filled in for a record. -/
def renderRecord (r : Renderer) (template : String) (record : Record) (deprecated : Bool) :
    Except Failure String :=
  r.render template record.table.name
    [("struct", .record record), ("deprecated", .bool deprecated)]

/-- The template for enumerations filled in. -/
def renderEnum (r : Renderer) (model : EnumModel) (deprecated : Bool) : Except Failure String :=
  r.render (if r.has customEnumTemplate then customEnumTemplate else enumTemplate)
    model.source.name [("enum", .ofEnumModel model), ("deprecated", .bool deprecated)]

end Renderer

end RowBindings.Generation
