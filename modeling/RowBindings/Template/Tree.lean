/-!
# Templates

What a template consists of: expressions, which have a value, and statements, which write text.
-/

namespace RowBindings.Template

/-- A value written down. -/
inductive Literal
  | none
  | bool (b : Bool)
  | int (n : Nat)
  /-- The number `digits · 10 ^ exponent`. -/
  | decimal (digits : Nat) (exponent : Int)
  | text (s : String)
  deriving DecidableEq, Repr

/-- An operator between two expressions. -/
inductive BinaryOp
  | or
  | and
  | equal
  | unequal
  | less
  | lessOrEqual
  | greater
  | greaterOrEqual
  | member
  | add
  | subtract
  /-- The texts of both, one after the other. -/
  | join
  | multiply
  | divide
  | floorDivide
  | remainder
  | power
  deriving DecidableEq, Repr

mutual

/-- An expression. -/
inductive Expr
  | literal (l : Literal)
  | name (n : String)
  | list (items : List Expr)
  | map (entries : List (Expr × Expr))
  | field (e : Expr) (name : String)
  | item (e key : Expr)
  | slice (e : Expr) (start stop step : Option Expr)
  | not (e : Expr)
  | negate (e : Expr)
  | binary (op : BinaryOp) (a b : Expr)
  /-- `a` if the test holds, else `b`, which may be missing. -/
  | choice (test a : Expr) (b : Option Expr)
  | filter (name : String) (e : Expr) (args : List Arg)
  | test (name : String) (e : Expr) (args : List Arg)
  | call (callee : Expr) (args : List Arg)

/-- An argument of a call. -/
inductive Arg
  | positional (e : Expr)
  | named (name : String) (e : Expr)
  /-- The elements of a list as arguments. -/
  | spread (e : Expr)
  /-- The entries of a map as named arguments. -/
  | spreadNamed (e : Expr)

end

deriving instance Repr for Expr, Arg

/-- What a value is assigned to. -/
inductive Target
  | name (n : String)
  | field (e : Target) (name : String)
  | list (items : List Target)
  deriving Repr

/-- A filter with its arguments. -/
structure FilterCall where
  name : String
  args : List Arg
  deriving Repr

/-- A statement. -/
inductive Stmt
  | text (s : String)
  | emit (e : Expr)
  | cond (test : Expr) (body otherwise : List Stmt)
  /-- Runs the body for each element that passes the filter, or `otherwise` if there is none. -/
  | each (target : Target) (iter : Expr) (filter : Option Expr) (body otherwise : List Stmt)
  | scope (assignments : List (Target × Expr)) (body : List Stmt)
  | assign (target : Target) (e : Expr)
  /-- Assigns what the body writes, after some filters. -/
  | capture (target : Target) (filters : List FilterCall) (body : List Stmt)
  /-- Writes what the body writes, after some filters. -/
  | filtered (filters : List FilterCall) (body : List Stmt)
  /-- A block by its name; a child template may put something else in its place. -/
  | block (name : String)
  | extends (e : Expr)
  | embed (e : Expr) (ignoreMissing : Bool)
  /-- Binds what another template defines. -/
  | bindAll (e : Expr) (target : Target)
  /-- Binds some of what another template defines, each to a name. -/
  | bindSome (e : Expr) (names : List (String × String))
  /-- Defines a macro. The defaults belong to the last parameters. -/
  | define (name : String) (params : List String) (defaults : List Expr) (body : List Stmt)
  /-- Evaluates a call and writes nothing. -/
  | run (e : Expr)
  deriving Repr

/-- A template: its statements, and the bodies of its blocks. -/
structure Tree where
  body : List Stmt
  blocks : List (String × List Stmt) := []
  deriving Repr

end RowBindings.Template
