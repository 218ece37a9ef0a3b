/-!
# Faults

What can be wrong with a template, or go wrong while it is filled in.
-/

namespace RowBindings.Template

/-- A fault. -/
inductive Fault
  | malformed
  | badEscape
  | templateNotFound
  | invalidOperation
  /-- A statement was asked for something that is no record. -/
  | notARecord
  /-- A selection by key was asked for a table without one. -/
  | noKey (table : String)
  | undefinedValue
  | unknownFilter
  | unknownFunction
  | unknownTest
  | unknownMethod
  | unknownBlock
  | missingArgument
  | tooManyArguments
  | cannotUnpack
  /-- Something went wrong in an included template. -/
  | badInclusion
  /-- Something went wrong in a block of a parent template. -/
  | badBlock
  deriving DecidableEq, Repr

/-- What is said about a fault. -/
def Fault.message : Fault → String
  | malformed => "syntax error"
  | badEscape => "bad string escape"
  | templateNotFound => "template not found"
  | invalidOperation => "invalid operation"
  | notARecord => "invalid operation: expected a struct model"
  | noKey table => "invalid operation: table '" ++ table ++ "' has no primary key"
  | undefinedValue => "undefined value"
  | unknownFilter => "unknown filter"
  | unknownFunction => "unknown function"
  | unknownTest => "unknown test"
  | unknownMethod => "unknown method"
  | unknownBlock => "unknown block"
  | missingArgument => "missing argument"
  | tooManyArguments => "too many arguments"
  | cannotUnpack => "cannot unpack"
  | badInclusion => "could not render include"
  | badBlock => "could not render block"

end RowBindings.Template
