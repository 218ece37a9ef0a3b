import RowBindings.Catalog.Basic
import RowBindings.Proofs.Statement.Grammar

/-!
# What statements do to a table

The meaning that the database gives to the two kinds of statements. A statement comes as a text with
the values bound to its parameters, and is read by its grammar before it runs. A row maps the names
of columns to values, NULL among them: NULL is equal to nothing, and no key contains it.
-/

namespace RowBindings.Database

open Catalog Statement

variable {V : Type}

/-- A value for each column; `none` is NULL. -/
abbrev Row (V : Type) := String → Option V

/-- A table with the rows in it. -/
structure Relation (V : Type) where
  table : Table
  rows : List (Row V)

/-- Whether `a = b` is true in a condition. -/
def equals [DecidableEq V] : Option V → Option V → Bool
  | some a, some b => a = b
  | _, _ => false

/-- The value bound to a parameter. -/
def argument (args : List (Option V)) (number : Nat) : Option V :=
  (args[number - 1]?).join

/-- Whether values are bound to the parameters of these numbers and to no others. -/
def fits (numbers : List Nat) (args : List (Option V)) : Bool :=
  numbers.all (List.range' 1 args.length).contains
    && (List.range' 1 args.length).all numbers.contains

namespace Relation

variable [DecidableEq V] (rel : Relation V)

/-- Whether the table has columns of these names. -/
def hasColumns (names : List String) : Bool :=
  names.all (rel.table.columns.map (·.name)).contains

/-- Whether a row has a value in every column of the key. -/
def admits (row : Row V) : Bool :=
  rel.table.columns.all fun c => !c.isPrimaryKey || (row c.name).isSome

/-- Whether two rows have the same key. -/
def sameKey (row other : Row V) : Bool :=
  rel.table.columns.all fun c => !c.isPrimaryKey || equals (row c.name) (other c.name)

/-- Whether the key of a new row is taken. A table without a key takes every row. -/
def isTaken (row : Row V) : Bool :=
  rel.table.columns.any (·.isPrimaryKey) && rel.rows.any (rel.sameKey · row)

end Relation

/-- The row that an insertion makes: `chosen` are the values that the database would give to the
columns that no value is bound for. -/
def newRow (cells : List (String × Cell)) (args : List (Option V)) (chosen : Row V) : Row V :=
  fun name =>
    match cells.lookup name with
    | some (.parameter k) => argument args k
    | _ => chosen name

/-- The numbers of the parameters among cells. -/
def cellParameters (cells : List (String × Cell)) : List Nat :=
  parameterNumbers (cells.map (·.2.token))

namespace Relation

variable [DecidableEq V] (rel : Relation V)

/-- Whether an insertion is about this table, with each column named once. -/
def acceptsInsert (s : Insert) (args : List (Option V)) : Bool :=
  s.table = rel.table.name
    && rel.hasColumns (s.cells.map (·.1) ++ s.returning)
    && (s.cells.map (·.1)).Nodup
    && fits (cellParameters s.cells) args

/-- The rows that an insertion gives back, and the table after it, unless it fails. -/
def insert? (chosen : Row V) (s : Insert) (onConflict : OnConflict) (args : List (Option V)) :
    Option (List (List (Option V)) × Relation V) :=
  let row := newRow s.cells args chosen
  if rel.acceptsInsert s args && rel.admits row then
    if rel.isTaken row then
      match onConflict with
      | .fail => none
      | .doNothing => some ([], rel)
    else
      let given := if s.returning.isEmpty then [] else [s.returning.map row]
      some (given, { rel with rows := rel.rows ++ [row] })
  else none

/-- Whether a selection is about this table. -/
def acceptsSelect (s : Select) (args : List (Option V)) : Bool :=
  s.table = rel.table.name
    && rel.hasColumns (s.columns ++ s.conditions.map (·.1))
    && fits (s.conditions.map (·.2)) args

/-- Whether a row meets the conditions of a selection. -/
def meets (s : Select) (args : List (Option V)) (row : Row V) : Bool :=
  s.conditions.all fun (name, k) => equals (row name) (argument args k)

/-- The rows that a selection gives, unless it fails. -/
def select? (s : Select) (args : List (Option V)) : Option (List (List (Option V))) :=
  if rel.acceptsSelect s args then
    some ((rel.rows.filter (meets s args)).map fun row => s.columns.map row)
  else none

/-- Runs the insertion that a text is. -/
def runInsert? (chosen : Row V) (text : String) (args : List (Option V)) :
    Option (List (List (Option V)) × Relation V) := do
  let (s, onConflict) ← Insert.ofText? text
  rel.insert? chosen s onConflict args

/-- Runs the selection that a text is. -/
def runSelect? (text : String) (args : List (Option V)) : Option (List (List (Option V))) := do
  let s ← Select.ofText? text
  rel.select? s args

end Relation

/-! ## Values and parameters -/

@[simp]
theorem equals_some_self [DecidableEq V] (v : V) : equals (some v) (some v) = true := by
  simp [equals]

theorem eq_of_equals [DecidableEq V] {a b : Option V} (h : equals a b = true) : a = b := by
  cases a with
  | none => cases b <;> cases h
  | some v =>
    cases b with
    | none => cases h
    | some w => exact congrArg some (of_decide_eq_true h)

theorem equals_self [DecidableEq V] {a : Option V} (h : a ≠ none) : equals a a = true := by
  cases a with
  | none => exact absurd rfl h
  | some v => exact equals_some_self v

/-- Parameters numbered from one fit as many values. -/
theorem fits_range' {args : List (Option V)} {n : Nat} (h : args.length = n) :
    fits (List.range' 1 n) args = true := by
  rw [fits, h, Bool.and_eq_true]
  exact ⟨List.all_eq_true.2 fun k hk => List.contains_iff_mem.2 hk,
    List.all_eq_true.2 fun k hk => List.contains_iff_mem.2 hk⟩

/-- Parameters are counted from one. -/
theorem argument_succ {args : List (Option V)} {i : Nat} {a : Option V} (h : args[i]? = some a) :
    argument args (i + 1) = a := by
  rw [argument, Nat.add_sub_cancel, h]
  rfl

namespace Relation

variable [DecidableEq V] {rel : Relation V} {chosen : Row V} {s : Insert}
  {args : List (Option V)}

/-- An insertion that is accepted, of a row that is admitted and whose key is free, adds that row
and gives back what it is asked for. -/
theorem insert?_of_free {onConflict : OnConflict} (haccepts : rel.acceptsInsert s args = true)
    (hadmits : rel.admits (newRow s.cells args chosen) = true)
    (hfree : rel.isTaken (newRow s.cells args chosen) = false) :
    rel.insert? chosen s onConflict args
      = some (if s.returning.isEmpty then [] else [s.returning.map (newRow s.cells args chosen)],
          { rel with rows := rel.rows ++ [newRow s.cells args chosen] }) := by
  simp only [insert?, haccepts, hadmits, hfree, Bool.and_self]
  rfl

/-- A row with NULL in its key is refused. -/
theorem insert?_of_not_admits {onConflict : OnConflict}
    (hadmits : rel.admits (newRow s.cells args chosen) = false) :
    rel.insert? chosen s onConflict args = none := by
  simp only [insert?, hadmits, Bool.and_false]
  rfl

theorem runInsert?_text (onConflict : OnConflict) :
    rel.runInsert? chosen (s.text onConflict) args = rel.insert? chosen s onConflict args := by
  rw [runInsert?, insert_ofText?_text]
  rfl

theorem runSelect?_text {s : Select} (hcolumns : s.columns ≠ []) (hconditions : s.conditions ≠ []) :
    rel.runSelect? s.text args = rel.select? s args := by
  rw [runSelect?, select_ofText?_text hcolumns hconditions]
  rfl

end Relation

end RowBindings.Database
