/-!
# Documents

A document is a table of named values: texts, other scalars, lists and tables. It is written line by
line: `key = value` adds an entry to the current table, `[path]` makes another table the current
one, and `[[path]]` appends a table to a list and makes it the current one.

A table remembers how it came about, because a table that is complete cannot be added to.
-/

namespace RowBindings.Document

/-- How a table came about. -/
inductive Origin
  /-- On the way to a table in a `[path]` line; such a line may still name it. -/
  | passed
  /-- By a `[path]` or `[[path]]` line that names it. -/
  | named
  /-- On the way to the last key of an entry with a dotted key. -/
  | dotted
  /-- In braces; such a table is complete. -/
  | inline
  deriving DecidableEq, Repr

/-- A value. -/
inductive Node
  | text (s : String)
  /-- A number, truth value, date or time. -/
  | scalar
  /-- A list; `open` if its elements come from `[[path]]` lines. -/
  | list (growing : Bool) (items : List Node)
  | table (origin : Origin) (entries : List (String × Node))
  deriving Repr

namespace Node

/-- The value of an entry. -/
def valueAt? (key : String) : Node → Option Node
  | table _ entries => entries.lookup key
  | _ => none

/-- Entries with one of them replaced, or added at the end. -/
def setEntry (key : String) (value : Node) : List (String × Node) → List (String × Node)
  | [] => [(key, value)]
  | (k, v) :: rest => if k == key then (k, value) :: rest else (k, v) :: setEntry key value rest

/-- Replaces the last element of a list. -/
def replaceLast (value : Node) : List Node → List Node
  | [] => []
  | [_] => [value]
  | x :: rest => x :: replaceLast value rest

/-- Adds an entry whose dotted key leads through `path`. Each table on the way is new or stems from
a dotted key as well, except that tables passed on the way to another may be passed again; the last
one must not stem from a line in brackets. -/
def addEntry (key : String) (value : Node) : List String → Node → Option Node
  | [], table origin entries =>
    if (entries.lookup key).isSome then none
    else some (table origin (entries ++ [(key, value)]))
  | k :: path, table origin entries =>
    let next : Option Node := match entries.lookup k with
      | none => some (table .dotted [])
      | some (table .dotted es) => some (table .dotted es)
      | some (table .passed es) => if path.isEmpty then none else some (table .passed es)
      | some _ => none
    do
      let inner ← addEntry key value path (← next)
      return table origin (setEntry k inner entries)
  | _, _ => none

/-- Changes the table at a path, tables that are missing on the way being created. A list of tables
stands for its last element. -/
def alterAt (change : Node → Option Node) : List String → Node → Option Node
  | [], table origin entries => change (table origin entries)
  | [], list true items => do
    let last ← items.getLast?
    return list true (replaceLast (← change last) items)
  | k :: path, table origin entries => do
    let next := (entries.lookup k).getD (table .passed [])
    return table origin (setEntry k (← alterAt change path next) entries)
  | k :: path, list true items => do
    match items.getLast? with
    | some (table origin entries) =>
      let next := (entries.lookup k).getD (table .passed [])
      let last := table origin (setEntry k (← alterAt change path next) entries)
      return list true (replaceLast last items)
    | _ => none
  | _, _ => none

/-- Whether a path may lead through the table. -/
def isOpenTable : Node → Bool
  | table origin _ => origin != .inline
  | list growing _ => growing
  | _ => false

/-- Adds the table that a `[path]` line names. -/
def addTable (key : String) : Node → Option Node
  | table origin entries =>
    match entries.lookup key with
    | none => some (table origin (entries ++ [(key, table .named [])]))
    | some (table .passed es) => some (table origin (setEntry key (table .named es) entries))
    | some _ => none
  | _ => none

/-- Appends the table that a `[[path]]` line asks for. -/
def addElement (key : String) : Node → Option Node
  | table origin entries =>
    match entries.lookup key with
    | none => some (table origin (entries ++ [(key, list true [table .named []])]))
    | some (list true items) =>
      some (table origin (setEntry key (list true (items ++ [table .named []])) entries))
    | some _ => none
  | _ => none

/-- Whether every value that a path leads through may be added to. -/
def admits : List String → Node → Bool
  | [], node => node.isOpenTable
  | k :: path, node =>
    node.isOpenTable &&
      let here := match node with
        | list _ items => items.getLast?
        | other => some other
      match here.bind (valueAt? k) with
      | some next => admits path next
      | none => true

end Node

/-- A document being read: the root table, and the path of the current table. -/
structure Draft where
  root : Node := .table .named []
  current : List String := []

namespace Draft

/-- Adds an entry to the current table. -/
def addEntry (d : Draft) (keys : List String) (value : Node) : Option Draft := do
  let key ← keys.getLast?
  return { d with root := ← d.root.alterAt (Node.addEntry key value keys.dropLast) d.current }

/-- Makes the table at a path the current one. -/
def openTable (d : Draft) (path : List String) : Option Draft := do
  let key ← path.getLast?
  if !d.root.admits path.dropLast then none
  return { root := ← d.root.alterAt (Node.addTable key) path.dropLast, current := path }

/-- Appends a table to the list at a path and makes it the current one. -/
def openElement (d : Draft) (path : List String) : Option Draft := do
  let key ← path.getLast?
  if !d.root.admits path.dropLast then none
  return { root := ← d.root.alterAt (Node.addElement key) path.dropLast, current := path }

end Draft

end RowBindings.Document
