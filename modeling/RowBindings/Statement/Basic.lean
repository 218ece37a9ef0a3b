import RowBindings.Statement.Name

/-!
# Statements

The two statements that generated code sends: one that inserts a row, and one that selects a row by
its key. A statement is a value; `text` writes it down.
-/

namespace RowBindings.Statement

/-- What is inserted into a column. -/
inductive Cell
  /-- The value bound to the parameter of this number, counted from one. -/
  | parameter (number : Nat)
  /-- The value that the database chooses. -/
  | default
  deriving DecidableEq, Repr

/-- A statement that inserts one row. -/
structure Insert where
  table : String
  /-- The columns named, each with what goes into it. -/
  cells : List (String × Cell)
  /-- Columns of the new row that are given back. -/
  returning : List String
  deriving DecidableEq, Repr

/-- What is done about a row that is there already. -/
inductive OnConflict
  | fail
  | doNothing
  deriving DecidableEq, Repr

/-- A statement that selects the columns of the rows where other columns have given values. -/
structure Select where
  columns : List String
  table : String
  /-- The columns compared, each with the number of the parameter it has to equal. -/
  conditions : List (String × Nat)
  deriving DecidableEq, Repr

/-- A parameter. -/
def parameterText (number : Nat) : List Char :=
  '$' :: Nat.toDigits 10 number

/-- What a cell is written as. -/
def Cell.text : Cell → List Char
  | .parameter k => parameterText k
  | .default => "DEFAULT".toList

/-- A list of texts with commas between them. -/
def commaSeparated (texts : List (List Char)) : List Char :=
  Text.joinWith [',', ' '] texts

/-- Names in a list. -/
def namesText (names : List String) : List Char :=
  commaSeparated (names.map fun name => nameText name.toList)

/-- The clause that says what is inserted. -/
def Insert.valuesText (s : Insert) : List Char :=
  match s.cells with
  | [] => " DEFAULT VALUES".toList
  | cells =>
    " (".toList ++ namesText (cells.map (·.1)) ++ ") VALUES (".toList
      ++ commaSeparated (cells.map fun cell => cell.2.text) ++ [')']

/-- The clause that says what is done about a row that is there already. -/
def OnConflict.text : OnConflict → List Char
  | .fail => []
  | .doNothing => " ON CONFLICT DO NOTHING".toList

/-- The clause that says what is given back. -/
def Insert.returningText (s : Insert) : List Char :=
  match s.returning with
  | [] => []
  | names => " RETURNING ".toList ++ namesText names

/-- An insertion as it is sent. -/
def Insert.text (s : Insert) (onConflict : OnConflict) : String :=
  String.ofList
    ("INSERT INTO ".toList ++ nameText s.table.toList ++ s.valuesText ++ onConflict.text
      ++ s.returningText)

/-- One condition of a selection. -/
def conditionText (condition : String × Nat) : List Char :=
  nameText condition.1.toList ++ " = ".toList ++ parameterText condition.2

/-- A selection as it is sent. -/
def Select.text (s : Select) : String :=
  String.ofList
    ("SELECT ".toList ++ namesText s.columns ++ " FROM ".toList ++ nameText s.table.toList
      ++ " WHERE ".toList
      ++ Text.joinWith " AND ".toList (s.conditions.map conditionText))

end RowBindings.Statement
