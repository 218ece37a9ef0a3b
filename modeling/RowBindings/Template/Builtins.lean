import RowBindings.Identifier
import RowBindings.Template.Helpers
import RowBindings.Template.Operation
import RowBindings.Unicode.LetterCase

/-!
# Functions, filters and tests

What templates can call. Arguments come as a list, the named ones as one value at its end.
-/

namespace RowBindings.Template

open Unicode

/-! ## Arguments -/

/-- An argument that has to be there. -/
def required : List Value → Except Fault (Value × List Value)
  | [] => .error .missingArgument
  | v :: rest => .ok (v, rest)

/-- No arguments are left. -/
def noMore : List Value → Except Fault Unit
  | [] => .ok ()
  | _ :: _ => .error .tooManyArguments

/-- An argument as text. -/
def asText : Value → Except Fault String
  | .undefined _ => .error .undefinedValue
  | .keywords _ => .error .invalidOperation
  | v => .ok v.toText

/-- An argument as text that has to be there. -/
def requiredText (args : List Value) : Except Fault (String × List Value) := do
  let (v, rest) ← required args
  return (← asText v, rest)

/-- An argument that may be left out, or be none. To give a missing value is a fault. -/
def optional : List Value → Except Fault (Option Value × List Value)
  | [] => .ok (none, [])
  | .undefined _ :: _ => .error .undefinedValue
  | .none :: rest => .ok (none, rest)
  | v :: rest => .ok (some v, rest)

/-- An argument as text that may be left out. -/
def optionalText (args : List Value) : Except Fault (Option String × List Value) := do
  match ← optional args with
  | (some v, rest) => return (some (← asText v), rest)
  | (none, rest) => return (none, rest)

/-- Positional and named arguments apart. -/
def splitKeywords : List Value → List Value × List (String × Value)
  | [] => ([], [])
  | [.keywords entries] => ([], entries)
  | v :: rest =>
    let (positional, named) := splitKeywords rest
    (v :: positional, named)

/-- No named arguments but these. -/
def onlyKeywords (known : List String) (named : List (String × Value)) : Except Fault Unit :=
  if named.all fun e => known.contains e.1 then .ok () else .error .tooManyArguments

/-- A named argument; nothing if it is missing. -/
def keyword? (name : String) (named : List (String × Value)) : Option Value :=
  match named.lookup name with
  | some (.undefined _) | some .none | none => none
  | some v => some v

/-- A truth value as a named argument. -/
def flag (name : String) (named : List (String × Value)) : Except Fault Bool :=
  match keyword? name named with
  | none => .ok false
  | some (.bool b) => .ok b
  | some _ => .error .invalidOperation

/-! ## Tests -/

/-- The names of the tests. -/
def testNames : List String := [
  "defined", "undefined", "none", "eq", "equalto", "==", "ne", "!=", "in", "string", "number",
  "odd", "even", "true", "false"]

/-- Whether a value passes a test. -/
def applyTest (name : String) (v : Value) (args : List Value) : Except Fault Bool := do
  let alone (b : Bool) : Except Fault Bool := do
    noMore args
    return b
  match name with
  | "defined" => alone (!v.isUndefined)
  | "undefined" => alone v.isUndefined
  | "none" => alone (match v with | .none => true | _ => false)
  | "string" => alone (match v with | .text _ => true | _ => false)
  | "number" => alone (match v with | .int _ | .float _ => true | _ => false)
  | "true" => alone (match v with | .bool b => b | _ => false)
  | "false" => alone (match v with | .bool b => !b | _ => false)
  | "odd" => alone (match v.toInt? with | some n => n % 2 != 0 | none => false)
  | "even" => alone (match v.toInt? with | some n => n % 2 == 0 | none => false)
  | "eq" | "equalto" | "==" =>
    let (w, rest) ← required args
    noMore rest
    return v.equal w
  | "ne" | "!=" =>
    let (w, rest) ← required args
    noMore rest
    return !v.equal w
  | "in" =>
    let (w, rest) ← required args
    noMore rest
    return (← v.member w).isTrue
  | _ => throw .unknownTest

/-! ## Text filters -/

/-- Punctuation of the basic Latin block. -/
def isPunctuation (c : Char) : Bool :=
  0x21 ≤ c.toNat && c.toNat ≤ 0x7E && !c.isAlphanum

/-- Each word with its first character in upper case and the others in lower case. -/
def titleCase (startsWord : Bool) : List Char → List Char
  | [] => []
  | c :: rest =>
    if isPunctuation c || isBlank c then c :: titleCase true rest
    else if startsWord then upperChar c ++ titleCase false rest
    else lowerChar c ++ titleCase false rest

/-- The first character in upper case and the others in lower case. -/
def sentenceCase : List Char → List Char
  | [] => []
  | c :: rest => upperChar c ++ lower rest

/-- The text with `new` in place of each `old`; an empty `old` stands before each character and at
the end. The first argument counts the characters of an `old` still to be skipped. -/
def replaceAll (old new : List Char) : Nat → List Char → List Char
  | _, [] => if old.isEmpty then new else []
  | skip + 1, _ :: rest => replaceAll old new skip rest
  | 0, c :: rest =>
    if old.isEmpty then new ++ c :: replaceAll old new 0 rest
    else if old.isPrefixOf (c :: rest) then new ++ replaceAll old new (old.length - 1) rest
    else c :: replaceAll old new 0 rest

/-! ## List filters -/

/-- The elements in reverse order. -/
def reversed : Value → Except Fault Value
  | .undefined s => .ok (.undefined s)
  | .none => .ok .none
  | .text s => .ok (.text (String.ofList s.toList.reverse))
  | .bool _ | .int _ | .float _ | .macroOf _ | .function _ => .error .invalidOperation
  | v => do return .list (← v.items).reverse

/-- The text `start` and then more texts, with a separator before each one that something stands
before. -/
def joinFrom (separator start : List Char) : List (List Char) → List Char
  | [] => start
  | t :: rest =>
    joinFrom separator (if start.isEmpty then t else start ++ separator ++ t) rest

/-- The texts of the elements with a text between them. -/
def joined (v : Value) (separator : String) : Except Fault Value :=
  match v with
  | .undefined _ | .none => .ok (.text "")
  | v => do
    let parts := (← v.items).map fun w => w.toText.toList
    return .text (String.ofList (joinFrom separator.toList [] parts))

/-- The order of elements: texts without regard to the case of basic Latin letters, if asked for. -/
def elementOrder (caseMatters : Bool) (a b : Value) : Ordering :=
  match a, b with
  | .text s, .text t => if caseMatters then compare s t else compare s.toLower t.toLower
  | a, b => a.order b

/-- The elements in order. -/
def sorted (v : Value) (named : List (String × Value)) : Except Fault Value := do
  let items ← match v with
    | .undefined _ => throw .invalidOperation
    | v => v.items
  let caseMatters ← flag "case_sensitive" named
  let byPath ← match keyword? "attribute" named with
    | none => pure none
    | some (.text path) => pure (some path)
    | some _ => throw .invalidOperation
  let notAfter (a b : Value) : Bool :=
    match byPath with
    | none => elementOrder caseMatters a b != .gt
    | some path => match a.atPath path, b.atPath path with
      | .ok a, .ok b => elementOrder caseMatters a b != .gt
      | _, _ => true
  let items := items.mergeSort notAfter
  let items := if ← flag "reverse" named then items.reverse else items
  onlyKeywords ["case_sensitive", "attribute", "reverse"] named
  return .list items

/-- The value at a path of each element, or a default where there is none. -/
def mapPath (v key : Value) (named : List (String × Value)) : Except Fault Value := do
  let default := (named.lookup "default").getD .missing
  let values ← (← v.definedItems).mapM fun element =>
    let found := match key with
      | .text path => element.atPath path
      | key => element.item key
    match found with
    | .ok w => .ok (if w.isUndefined then default else w)
    | .error fault => if default.isUndefined then .error fault else .ok default
  onlyKeywords ["attribute", "default"] named
  return .list values

/-! ## Filters -/

/-- The names of the filters. -/
def filterNames : List String := [
  "join", "length", "count", "first", "last", "upper", "lower", "map", "selectattr", "list",
  "replace", "trim", "reverse", "title", "capitalize", "default", "d", "sort", "rust_str",
  "type_name", "field_name"]

/-- A filter that makes a text of a text. -/
def textFilter (f : List Char → List Char) (v : Value) (args : List Value) :
    Except Fault Value := do
  let s ← asText v
  noMore args
  return .text (String.ofList (f s.toList))

/-- A value after a filter that does not apply another one. -/
def applySimple (name : String) (v : Value) (args : List Value) : Except Fault Value :=
  match name with
  | "upper" => textFilter upper v args
  | "lower" => textFilter lower v args
  | "title" => textFilter (titleCase true) v args
  | "capitalize" => textFilter sentenceCase v args
  | "rust_str" => textFilter Text.literal v args
  | "type_name" => textFilter (fun cs => (Identifier.typeName (String.ofList cs)).toList) v args
  | "field_name" => textFilter (fun cs => (Identifier.fieldName (String.ofList cs)).toList) v args
  | "replace" => do
    let s ← asText v
    let (old, args) ← requiredText args
    let (new, args) ← requiredText args
    noMore args
    return .text (String.ofList (replaceAll old.toList new.toList 0 s.toList))
  | "trim" => do
    let s ← asText v
    let (chars, args) ← optionalText args
    noMore args
    let cs := match chars with
      | some chars =>
        dropWhileEnd chars.toList.contains (s.toList.dropWhile chars.toList.contains)
      | none => trim s.toList
    return .text (String.ofList cs)
  | "join" => do
    let (separator, args) ← optionalText args
    noMore args
    joined v (separator.getD "")
  | "length" | "count" => do
    noMore args
    match v.length? with
    | some n => return .int n
    | none => throw .invalidOperation
  | "first" => do
    noMore args
    match v with
    | .undefined _ | .none | .bool _ | .int _ | .float _ | .macroOf _ | .function _ =>
      throw .invalidOperation
    | v => return (← v.items).head?.getD .missing
  | "last" => do
    noMore args
    match v with
    | .text _ | .list _ => return (← v.items).getLast?.getD .missing
    | _ => throw .invalidOperation
  | "reverse" => do
    noMore args
    reversed v
  | "list" => do
    noMore args
    match v with
    | .undefined _ => throw .invalidOperation
    | v => return .list (← v.items)
  | "default" | "d" => do
    let (other, args) ← optional args
    let (lax, args) ← optional args
    let lax ← match lax with
      | none => pure false
      | some (.bool b) => pure b
      | some _ => throw .invalidOperation
    noMore args
    return if v.isUndefined || (lax && !v.isTrue) then other.getD (.text "") else v
  | "sort" => do
    let (positional, named) := splitKeywords args
    noMore positional
    sorted v named
  | "selectattr" => do
    let (path, args) ← requiredText args
    let (test, args) ← optionalText args
    match test with
    | some test => if !testNames.contains test then throw .unknownTest
    | none => pure ()
    let kept ← (← v.definedItems).filterM fun element => do
      let w ← element.atPath path
      match test with
      | some test => applyTest test w args
      | none => return w.isTrue
    return .list kept
  | _ => throw .unknownFilter

/-- Each element after a filter, or what each has at a path. -/
def mapElements (v : Value) (apply : String → Value → Except Fault Value)
    (positional : List Value) (named : List (String × Value)) : Except Fault Value := do
  match keyword? "attribute" named, positional with
  | some key, _ =>
    noMore positional
    mapPath v key named
  | none, .text filter :: _ =>
    if !filterNames.contains filter then throw .unknownFilter
    return .list (← (← v.definedItems).mapM (apply filter))
  | none, _ => throw .invalidOperation

/-- A value after a filter with positional arguments. -/
def applyPositional (name : String) (v : Value) : List Value → Except Fault Value
  | [] =>
    if name == "map" then mapElements v (fun _ _ => .error .unknownFilter) [] []
    else applySimple name v []
  | arg :: rest =>
    if name == "map" then
      mapElements v (fun filter element => applyPositional filter element rest) (arg :: rest) []
    else applySimple name v (arg :: rest)

/-- A value after a filter. What is applied to each element of a list gets no named arguments. -/
def applyFilter (name : String) (v : Value) (args : List Value) : Except Fault Value :=
  if name == "map" then
    let (positional, named) := splitKeywords args
    mapElements v (fun filter element => applyPositional filter element positional.tail)
      positional named
  else applySimple name v args

/-! ## Functions -/

/-- The names of the functions. -/
def functions : List (String × Function) := [
  ("range", .range), ("dict", .dict), ("create_insert_sql", .insertText),
  ("create_insert_on_conflict_do_nothing_sql", .insertIgnoringText),
  ("create_insert_params", .insertParams), ("create_insert_scan", .insertScan),
  ("create_select_by_pk_sql", .selectText), ("create_select_by_pk_func_params", .selectSignature),
  ("create_select_by_pk_sql_params", .selectParams), ("create_select_by_pk_scan", .selectScan)]

/-- A whole number that is not negative and fits into 32 bits. -/
def asCount (v : Value) : Except Fault Nat :=
  match v with
  | .undefined _ => .error .undefinedValue
  | v => match v.toInt? with
    | some n => if 0 ≤ n ∧ n < UInt32.size then .ok n.toNat else .error .invalidOperation
    | none => .error .invalidOperation

/-- The numbers from a first one on up to another one. -/
def rangeOf (args : List Value) : Except Fault Value := do
  let (lower, args) ← required args
  let lower ← asCount lower
  let (upper, args) ← optional args
  let upper ← upper.mapM asCount
  let (step, args) ← optional args
  let step ← step.mapM asCount
  noMore args
  let (first, last) := match upper with
    | some upper => (lower, upper)
    | none => (0, lower)
  let step := step.getD 1
  if step == 0 then throw .invalidOperation
  let count := (last - first + step - 1) / step
  if count > 100000 then throw .invalidOperation
  return .list ((List.range count).map fun i => .int (first + i * step : Nat))

/-- A map with the entries of another one and some more. -/
def dictOf (args : List Value) : Except Fault Value := do
  let (positional, named) := splitKeywords args
  let (start, rest) := match positional with
    | [] => (none, [])
    | v :: rest => (some v, rest)
  noMore rest
  let entries ← match start with
    | none => pure []
    | some (.none) => pure []
    | some (.undefined _) => throw .undefinedValue
    | some (.map entries) => pure entries
    | some (.record r) => pure ((Value.recordEntries r).map fun (k, v) => (.text k, v))
    | some _ => throw .invalidOperation
  let insert (entries : List (Value × Value)) (e : String × Value) : List (Value × Value) :=
    if entries.any fun f => f.1.equal (.text e.1) then
      entries.map fun f => if f.1.equal (.text e.1) then (f.1, e.2) else f
    else entries ++ [(.text e.1, e.2)]
  return .map (named.foldl insert entries)

/-- The names of fields as a list. -/
def fieldNames (fields : List Model.Field) : Value :=
  .texts (fields.map (·.name))

/-- A function of a record. -/
def ofRecord (args : List Value) (f : Model.Record → Except Fault Value) : Except Fault Value := do
  let (v, rest) ← required args
  noMore rest
  match v with
  | .record r => f r
  | _ => throw .notARecord

/-- The value of a call. -/
def Function.apply (helpers : Helpers) (f : Function) (args : List Value) : Except Fault Value :=
  match f with
  | .range => rangeOf args
  | .dict => dictOf args
  | .insertText => ofRecord args fun r => .ok (.text (helpers.insertText r))
  | .insertIgnoringText => ofRecord args fun r => .ok (.text (helpers.insertIgnoringText r))
  | .insertParams => ofRecord args fun r => .ok (fieldNames (helpers.insertParams r))
  | .insertScan => ofRecord args fun r => .ok (fieldNames (helpers.insertScan r))
  | .selectText => ofRecord args fun r =>
    match helpers.selectText r with
    | some s => .ok (.text s)
    | none => .error (.noKey r.table.name)
  | .selectSignature => ofRecord args fun r =>
    .ok (.text (String.ofList (Text.joinWith [',', ' ']
      ((helpers.selectSignature r).map fun (name, type) =>
        name.toList ++ ':' :: ' ' :: type.toList))))
  | .selectParams => ofRecord args fun r => .ok (.texts (helpers.selectParams r))
  | .selectScan => ofRecord args fun r => .ok (fieldNames (helpers.selectScan r))

end RowBindings.Template
