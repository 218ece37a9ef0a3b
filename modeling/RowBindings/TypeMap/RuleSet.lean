import RowBindings.Pattern.Matching

/-!
# Type rules

A rule maps database types to a type of the generated source, one for columns that are never null
and one for the others. A rule lists the types it covers, as literal texts or as patterns. Rules are
tried in order and the first that matches decides; what no rule matches gets the type of a rule that
is kept apart for this.
-/

namespace RowBindings.TypeMap

/-- Marks an entry of a rule as a pattern. -/
def patternMark : List Char := ['r', 'e', '/']

/-- One entry of a rule: a type, or a pattern that types may match. -/
inductive Entry
  | literal (type : String)
  | pattern (source : String)
  deriving DecidableEq, Repr

/-- An entry that starts with `re/` is the pattern that follows. -/
def Entry.ofText (text : String) : Entry :=
  let cs := text.toList
  if patternMark.isPrefixOf cs then .pattern (String.ofList (cs.drop patternMark.length))
  else .literal text

/-- Whether an entry covers a type. A pattern that cannot be read covers none. -/
def Entry.covers (type : String) : Entry → Bool
  | .literal t => t == type
  | .pattern source =>
    match Pattern.compile? source with
    | some p => p.isMatch type
    | none => false

/-- A rule. -/
structure Rule where
  name : String
  /-- The entries as written. -/
  dbTypes : List String
  notNullType : String
  nullableType : String
  deriving DecidableEq, Repr

namespace Rule

/-- The entries of a rule. -/
def entries (r : Rule) : List Entry :=
  r.dbTypes.map Entry.ofText

/-- The patterns of a rule, in order. -/
def patterns (r : Rule) : List String :=
  r.entries.filterMap fun
    | .pattern source => some source
    | .literal _ => none

/-- Whether some entry of the rule covers a type. -/
def covers (r : Rule) (type : String) : Bool :=
  r.entries.any (·.covers type)

/-- The first pattern of a rule that cannot be read. -/
def badPattern? (r : Rule) : Option String :=
  r.patterns.find? fun source => (Pattern.compile? source).isNone

end Rule

/-- The name of the rule for types that no other rule covers. -/
def fallbackName : String := "default"

/-- Rules in the order they are tried, and the rule for types that none of them covers. -/
structure RuleSet where
  rules : List Rule
  fallback : Rule
  deriving DecidableEq, Repr

/-- Why a list of rules is no rule set. -/
inductive RuleError
  /-- The text of the rules cannot be read. -/
  | unreadable
  | badPattern (pattern rule : String)
  | duplicate (rule : String)
  | noFallback
  deriving DecidableEq, Repr

/-- What is said about the error. -/
def RuleError.message : RuleError → String
  | .unreadable => "Invalid type map"
  | .badPattern pattern rule => "Invalid pattern '" ++ pattern ++ "' in type rule '" ++ rule ++ "'"
  | .duplicate rule => "Duplicate type rule '" ++ rule ++ "'"
  | .noFallback => "Type map has no '" ++ fallbackName ++ "' rule"

namespace RuleSet

/-- Adds the rules of a list to those before them, first fault first: a pattern that cannot be read
goes before a name that is taken. -/
def gather (ordered : List Rule) (fallback : Option Rule) :
    List Rule → Except RuleError (List Rule × Option Rule)
  | [] => .ok (ordered, fallback)
  | r :: rest =>
    match r.badPattern? with
    | some source => .error (.badPattern source r.name)
    | none =>
      if r.name = fallbackName then
        if fallback.isSome then .error (.duplicate r.name) else gather ordered (some r) rest
      else if ordered.any (·.name == r.name) then .error (.duplicate r.name)
      else gather (ordered ++ [r]) fallback rest

/-- The rule set of a list of rules: every pattern can be read, names are distinct, and one of the
rules is the fallback. -/
def ofRules (rules : List Rule) : Except RuleError RuleSet :=
  match gather [] none rules with
  | .error e => .error e
  | .ok (_, none) => .error .noFallback
  | .ok (ordered, some fallback) => .ok { rules := ordered, fallback }

/-- The first rule that covers a type. -/
def ruleFor? (s : RuleSet) (type : String) : Option Rule :=
  s.rules.find? (·.covers type)

/-- The generated type for a database type. What no rule covers gets the fallback's type for columns
that are never null, whether or not the column is. -/
def resolve (s : RuleSet) (type : String) (notNull : Bool) : String :=
  match s.ruleFor? type with
  | some r => if notNull then r.notNullType else r.nullableType
  | none => s.fallback.notNullType

/-- Whether a rule has this name. -/
def contains (s : RuleSet) (name : String) : Bool :=
  name == fallbackName || s.rules.any (·.name == name)

/-- Adds a rule after the others. -/
def push (s : RuleSet) (r : Rule) : RuleSet :=
  { s with rules := s.rules ++ [r] }

end RuleSet

end RowBindings.TypeMap
