import RowBindings.Template.Token
import RowBindings.Template.Tree

/-!
# Reading templates

From tokens to statements. The first fault met ends the reading.
-/

namespace RowBindings.Template

namespace Reader

/-- The tokens still to be read, the blocks read so far, and whether a macro is being read. -/
structure Stream where
  tokens : List Token
  blocks : List (String × List Stmt) := []
  inMacro : Bool := false

/-- A step of reading. -/
abbrev Step := StateT Stream (Except Fault)

/-- The fault at the place reached. -/
def fail {α : Type} : Step α := do
  match (← get).tokens with
  | .bad fault :: _ => throw fault
  | _ => throw .malformed

/-- The next token, which is not consumed. -/
def peek? : Step (Option Token) :=
  return (← get).tokens.head?

/-- Consumes a token. -/
def advance : Step Unit :=
  modify fun s => { s with tokens := s.tokens.tail }

/-- Consumes the next token if it is this one. -/
def accept (t : Token) : Step Bool := do
  if (← peek?) == some t then
    advance
    return true
  else return false

/-- Consumes this token; another one is a fault. -/
def expect (t : Token) : Step Unit := do
  unless ← accept t do fail

/-- Consumes a name. -/
def anyName : Step String := do
  match ← peek? with
  | some (.name n) => advance; return n
  | _ => fail

/-- Whether the next token is one of these. -/
def atAny (ts : List Token) : Step Bool := do
  match ← peek? with
  | some t => return ts.contains t
  | none => return false

/-! ## Expressions -/

/-- How strongly operators bind, from the weakest on. -/
inductive Level
  | or
  | and
  | not
  | comparison
  | sum
  | join
  | product
  | power
  | unary

/-- The next stronger level. -/
def Level.next : Level → Level
  | or => and
  | and => not
  | not => comparison
  | comparison => sum
  | sum => join
  | join => product
  | product => power
  | power => unary
  | unary => unary

/-- The operators of a level. -/
def Level.operators : Level → List (Token × BinaryOp)
  | or => [(.name "or", .or)]
  | and => [(.name "and", .and)]
  | comparison =>
    [(.sign "==", .equal), (.sign "!=", .unequal), (.sign "<", .less), (.sign "<=", .lessOrEqual),
      (.sign ">", .greater), (.sign ">=", .greaterOrEqual), (.name "in", .member)]
  | sum => [(.sign "+", .add), (.sign "-", .subtract)]
  | join => [(.sign "~", .join)]
  | product =>
    [(.sign "*", .multiply), (.sign "/", .divide), (.sign "//", .floorDivide),
      (.sign "%", .remainder)]
  | power => [(.sign "**", .power)]
  | not | unary => []

/-- Whether a token can start an argument that a test takes without parentheses. -/
def startsBareArgument : Token → Bool
  | .name n => !(["and", "or", "else", "is"].contains n)
  | .text _ | .int _ | .decimal .. => true
  | .sign s => ["+", "-", "[", "\x7b"].contains s
  | _ => false

/-- How many arguments a call may have. -/
def argumentLimit : Nat := 2000

/-- Whether an argument is passed by its name. -/
def isNamed : Arg → Bool
  | .named .. | .spreadNamed _ => true
  | .positional _ | .spread _ => false

mutual

/-- An expression. `depth` bounds how deep expressions are nested. -/
def expr (fuel depth : Nat) : Step Expr := do
  match fuel, depth with
  | fuel + 1, depth + 1 =>
    let e ← level fuel depth .or
    choices fuel depth e
  | _, _ => fail
termination_by structural fuel

/-- The conditions after an expression. -/
def choices (fuel depth : Nat) (e : Expr) : Step Expr := do
  match fuel with
  | 0 => fail
  | fuel + 1 =>
    if ← accept (.name "if") then
      let test ← level fuel depth .or
      if ← accept (.name "else") then
        let other ← expr fuel depth
        choices fuel depth (.choice test e (some other))
      else choices fuel depth (.choice test e none)
    else return e
termination_by structural fuel

/-- Operators of a level and of stronger ones. -/
def level (fuel depth : Nat) (l : Level) : Step Expr := do
  match fuel with
  | 0 => fail
  | fuel + 1 =>
    match l with
    | .unary => unary fuel depth
    | .not =>
      if ← accept (.name "not") then
        return .not (← level fuel depth .not)
      else level fuel depth .comparison
    | l =>
      let e ← level fuel depth l.next
      operators fuel depth l e
termination_by structural fuel

/-- The operators of a level after a first operand. -/
def operators (fuel depth : Nat) (l : Level) (e : Expr) : Step Expr := do
  match fuel with
  | 0 => fail
  | fuel + 1 =>
    match ← peek? with
    | none => return e
    | some t =>
      match l.operators.lookup t, l, t with
      | some op, _, _ =>
        advance
        let b ← level fuel depth l.next
        operators fuel depth l (.binary op e b)
      | none, .comparison, .name "not" =>
        advance
        expect (.name "in")
        let b ← level fuel depth l.next
        operators fuel depth l (.not (.binary .member e b))
      | none, _, _ => return e
termination_by structural fuel

/-- An operand with a sign before it and what is applied to it after it. -/
def unary (fuel depth : Nat) : Step Expr := do
  match fuel with
  | 0 => fail
  | fuel + 1 =>
    let e ← signed fuel depth
    let e ← suffixes fuel depth e
    filters fuel depth e
termination_by structural fuel

/-- An operand with signs before it. -/
def signed (fuel depth : Nat) : Step Expr := do
  match fuel with
  | 0 => fail
  | fuel + 1 =>
    if ← accept (.sign "-") then return .negate (← signed fuel depth)
    else primary fuel depth
termination_by structural fuel

/-- Attributes, subscripts and calls after an operand. -/
def suffixes (fuel depth : Nat) (e : Expr) : Step Expr := do
  match fuel with
  | 0 => fail
  | fuel + 1 =>
    if ← accept (.sign ".") then
      suffixes fuel depth (.field e (← anyName))
    else if ← accept (.sign "[") then
      suffixes fuel depth (← subscript fuel depth e)
    else if (← peek?) == some (.sign "(") then
      suffixes fuel depth (.call e (← arguments fuel depth))
    else return e
termination_by structural fuel

/-- A subscript after its bracket. -/
def subscript (fuel depth : Nat) (e : Expr) : Step Expr := do
  match fuel with
  | 0 => fail
  | fuel + 1 =>
    let start ← if ← atAny [.sign ":"] then pure none else some <$> expr fuel depth
    if ← accept (.sign ":") then
      let stop ← if ← atAny [.sign "]", .sign ":"] then pure none else some <$> expr fuel depth
      let step ←
        if ← accept (.sign ":") then
          if ← atAny [.sign "]"] then pure none else some <$> expr fuel depth
        else pure none
      expect (.sign "]")
      return .slice e start stop step
    else
      expect (.sign "]")
      match start with
      | some key => return .item e key
      | none => fail
termination_by structural fuel

/-- Filters and tests after an operand. -/
def filters (fuel depth : Nat) (e : Expr) : Step Expr := do
  match fuel with
  | 0 => fail
  | fuel + 1 =>
    if ← accept (.sign "|") then
      let name ← anyName
      let args ← optionalArguments fuel depth
      filters fuel depth (.filter name e args)
    else if ← accept (.name "is") then
      let negated ← accept (.name "not")
      let name ← anyName
      let args ←
        if (← peek?) == some (.sign "(") then arguments fuel depth
        else if ((← peek?).map startsBareArgument) == some true then
          let arg ← signed fuel depth
          let arg ← suffixes fuel depth arg
          pure [.positional arg]
        else pure []
      let test := Expr.test name e args
      filters fuel depth (if negated then .not test else test)
    else return e
termination_by structural fuel

/-- Arguments in parentheses, if there are any. -/
def optionalArguments (fuel depth : Nat) : Step (List Arg) := do
  match fuel with
  | 0 => fail
  | fuel + 1 =>
    if (← peek?) == some (.sign "(") then arguments fuel depth else return []
termination_by structural fuel

/-- Arguments in parentheses. -/
def arguments (fuel depth : Nat) : Step (List Arg) := do
  match fuel with
  | 0 => fail
  | fuel + 1 =>
    expect (.sign "(")
    moreArguments fuel depth 0 false
termination_by structural fuel

/-- Arguments up to the closing parenthesis, after so many others, named ones among them or not. -/
def moreArguments (fuel depth count : Nat) (named : Bool) : Step (List Arg) := do
  match fuel with
  | 0 => fail
  | fuel + 1 =>
    if ← accept (.sign ")") then return []
    unless count == 0 do expect (.sign ",")
    if count != 0 && (← accept (.sign ")")) then return []
    let arg ← argument fuel depth named
    if count ≥ argumentLimit then throw .malformed
    return arg :: (← moreArguments fuel depth (count + 1) (named || isNamed arg))
termination_by structural fuel

/-- One argument; no positional one comes after a named one. -/
def argument (fuel depth : Nat) (named : Bool) : Step Arg := do
  match fuel with
  | 0 => fail
  | fuel + 1 =>
    if ← accept (.sign "**") then return .spreadNamed (← expr fuel depth)
    else if ← accept (.sign "*") then return .spread (← expr fuel depth)
    else
      let e ← expr fuel depth
      match e with
      | .name n =>
        if ← accept (.sign "=") then return .named n (← level fuel depth .or)
        else if named then fail
        else return .positional e
      | e => if named then fail else return .positional e
termination_by structural fuel

/-- An operand. -/
def primary (fuel depth : Nat) : Step Expr := do
  match fuel, depth with
  | fuel + 1, depth + 1 =>
    match ← peek? with
    | some (.name n) =>
      advance
      return match n with
        | "true" | "True" => .literal (.bool true)
        | "false" | "False" => .literal (.bool false)
        | "none" | "None" => .literal .none
        | n => .name n
    | some (.text s) => advance; return .literal (.text s)
    | some (.int n) => advance; return .literal (.int n)
    | some (.decimal d e) => advance; return .literal (.decimal d e)
    | some (.sign "(") =>
      advance
      if ← accept (.sign ")") then return .list []
      let e ← expr fuel depth
      if ← atAny [.sign ","] then
        return .list (e :: (← elements fuel depth ")" false))
      else
        expect (.sign ")")
        return e
    | some (.sign "[") =>
      advance
      return .list (← elements fuel depth "]" true)
    | some (.sign "\x7b") =>
      advance
      return .map (← entries fuel depth true)
    | _ => fail
  | _, _ => fail
termination_by structural fuel

/-- The elements of a list up to the closing bracket. -/
def elements (fuel depth : Nat) (closing : String) (first : Bool) : Step (List Expr) := do
  match fuel with
  | 0 => fail
  | fuel + 1 =>
    if ← accept (.sign closing) then return []
    unless first do expect (.sign ",")
    if !first && (← accept (.sign closing)) then return []
    let e ← expr fuel depth
    return e :: (← elements fuel depth closing false)
termination_by structural fuel

/-- The entries of a map up to the closing brace. -/
def entries (fuel depth : Nat) (first : Bool) : Step (List (Expr × Expr)) := do
  match fuel with
  | 0 => fail
  | fuel + 1 =>
    if ← accept (.sign "\x7d") then return []
    unless first do expect (.sign ",")
    if !first && (← accept (.sign "\x7d")) then return []
    let key ← expr fuel depth
    expect (.sign ":")
    let value ← expr fuel depth
    return (key, value) :: (← entries fuel depth false)
termination_by structural fuel

end

/-! ## Targets -/

/-- Names that nothing is assigned to. -/
def fixedNames : List String :=
  ["true", "True", "false", "False", "none", "None", "loop", "self"]

/-- A name that something is assigned to. -/
def newName : Step String := do
  let n ← anyName
  if fixedNames.contains n then throw .malformed
  return n

mutual

/-- Names with commas between them, or a single one. -/
def target (fuel : Nat) : Step Target := do
  match fuel with
  | 0 => fail
  | fuel + 1 =>
    let (items, tuple) ← targets fuel true
    match items, tuple with
    | [t], false => return t
    | items, _ => return .list items
termination_by structural fuel

/-- The names of a target, and whether there is a comma among them. -/
def targets (fuel : Nat) (first : Bool) : Step (List Target × Bool) := do
  match fuel with
  | 0 => fail
  | fuel + 1 =>
    unless first do expect (.sign ",")
    if ← atAny [.sign ")", .showEnd, .blockEnd, .name "in"] then return ([], false)
    let t ←
      if ← accept (.sign "(") then
        let t ← target fuel
        expect (.sign ")")
        pure t
      else Target.name <$> newName
    if ← atAny [.sign ","] then
      let (more, _) ← targets fuel false
      return (t :: more, true)
    else return ([t], false)
termination_by structural fuel

end

/-- A name with attributes. -/
def fields (fuel : Nat) (t : Target) : Step Target := do
  match fuel with
  | 0 => fail
  | fuel + 1 =>
    if ← accept (.sign ".") then fields fuel (.field t (← anyName)) else return t

/-! ## Statements -/

/-- How deep statements and expressions may be nested. -/
def depthLimit : Nat := 150

/-- Filters with bars between them, up to the end of the tag. -/
def filterChain (fuel depth : Nat) (first : Bool) : Step (List FilterCall) := do
  match fuel with
  | 0 => fail
  | fuel + 1 =>
    if ← atAny [.blockEnd] then
      if first then fail else return []
    else
      unless first do expect (.sign "|")
      let name ← anyName
      let args ← optionalArguments fuel depth
      return { name, args } :: (← filterChain fuel depth false)

/-- The parameters of a macro, up to the closing parenthesis, with the defaults of the last ones. -/
def parameters (fuel depth : Nat) (first defaulted : Bool) :
    Step (List String × List Expr) := do
  match fuel with
  | 0 => fail
  | fuel + 1 =>
    if ← accept (.sign ")") then return ([], [])
    unless first do expect (.sign ",")
    if !first && (← accept (.sign ")")) then return ([], [])
    let name ← newName
    if ← accept (.sign "=") then
      let value ← expr fuel depth
      let (names, values) ← parameters fuel depth false true
      return (name :: names, value :: values)
    else if defaulted then fail
    else
      let (names, values) ← parameters fuel depth false false
      return (name :: names, values)

/-- The names taken from another template, each with the name it is bound to. -/
def imports (fuel : Nat) (first : Bool) : Step (List (String × String)) := do
  match fuel with
  | 0 => fail
  | fuel + 1 =>
    if ← atAny [.blockEnd] then return []
    unless first do expect (.sign ",")
    if !first && (← atAny [.blockEnd]) then return []
    let name ← newName
    let bound ← if ← accept (.name "as") then newName else pure name
    return (name, bound) :: (← imports fuel false)

/-- A remark on the context, which changes nothing. -/
def contextRemark : Step Unit := do
  if ← atAny [.name "with", .name "without"] then
    advance
    expect (.name "context")

mutual

/-- Statements up to a tag that starts with one of the words, or to the end. The word is not
consumed. -/
def body (fuel depth : Nat) (stops : List String) : Step (List Stmt) := do
  match fuel with
  | 0 => fail
  | fuel + 1 =>
    match ← peek? with
    | none => return []
    | some (.data s) =>
      advance
      return .text s :: (← body fuel depth stops)
    | some .showStart =>
      advance
      let e ← expr fuel depth
      expect .showEnd
      return .emit e :: (← body fuel depth stops)
    | some .blockStart =>
      advance
      match ← peek? with
      | some (.name n) =>
        if stops.contains n then return []
        let s ← statement fuel depth
        expect .blockEnd
        return s :: (← body fuel depth stops)
      | _ => fail
    | _ => fail
termination_by structural fuel

/-- A body in the tag that opens it, with the word that closes it. -/
def closedBody (fuel depth : Nat) (closing : String) : Step (List Stmt) := do
  match fuel with
  | 0 => fail
  | fuel + 1 =>
    expect .blockEnd
    let b ← body fuel depth [closing]
    advance
    return b
termination_by structural fuel

/-- A statement, from its word to the end of its last tag, which is not consumed. -/
def statement (fuel depth : Nat) : Step Stmt := do
  match fuel, depth with
  | fuel + 1, depth + 1 =>
    match ← anyName with
    | "for" =>
      let t ← target fuel
      expect (.name "in")
      let iter ← level fuel depth .or
      let filter ← if ← accept (.name "if") then some <$> expr fuel depth else pure none
      expect .blockEnd
      let b ← body fuel depth ["endfor", "else"]
      let otherwise ←
        if ← accept (.name "else") then
          expect .blockEnd
          body fuel depth ["endfor"]
        else pure []
      advance
      return .each t iter filter b otherwise
    | "if" => condition fuel depth
    | "with" =>
      let assignments ← bindings fuel depth true
      return .scope assignments (← closedBody fuel depth "endwith")
    | "set" =>
      let parenthesised ← accept (.sign "(")
      let t ←
        if parenthesised then
          let t ← target fuel
          expect (.sign ")")
          pure t
        else fields fuel (.name (← newName))
      if !parenthesised && (← atAny [.blockEnd, .sign "|"]) then
        let filters ← if ← accept (.sign "|") then filterChain fuel depth true else pure []
        return .capture t filters (← closedBody fuel depth "endset")
      else
        expect (.sign "=")
        return .assign t (← expr fuel depth)
    | "filter" =>
      let filters ← filterChain fuel depth true
      return .filtered filters (← closedBody fuel depth "endfilter")
    | "block" =>
      if (← get).inMacro then throw .malformed
      let name ← anyName
      if ((← get).blocks.lookup name).isSome then throw .malformed
      modify fun s => { s with blocks := s.blocks ++ [(name, [])] }
      let b ← closedBody fuel depth "endblock"
      modify fun s => { s with blocks := s.blocks.map fun entry =>
        if entry.1 == name then (name, b) else entry }
      match ← peek? with
      | some (.name n) => if n == name then advance else throw .malformed
      | _ => pure ()
      return .block name
    | "extends" => return .extends (← expr fuel depth)
    | "include" =>
      let e ← expr fuel depth
      contextRemark
      let ignoreMissing ← accept (.name "ignore")
      if ignoreMissing then
        expect (.name "missing")
        contextRemark
      return .embed e ignoreMissing
    | "import" =>
      let e ← expr fuel depth
      expect (.name "as")
      let t ← newName
      contextRemark
      return .bindAll e (.name t)
    | "from" =>
      let e ← expr fuel depth
      expect (.name "import")
      return .bindSome e (← imports fuel true)
    | "macro" =>
      let name ← anyName
      expect (.sign "(")
      let (params, defaults) ← parameters fuel depth true false
      let outer := (← get).inMacro
      modify fun s => { s with inMacro := true }
      let b ← closedBody fuel depth "endmacro"
      modify fun s => { s with inMacro := outer }
      return .define name params defaults b
    | "do" =>
      let e ← expr fuel depth
      match e with
      | .call .. => return .run e
      | _ => throw .malformed
    | _ => throw .malformed
  | _, _ => fail
termination_by structural fuel

/-- A condition after its word, with the alternatives that follow. -/
def condition (fuel depth : Nat) : Step Stmt := do
  match fuel with
  | 0 => fail
  | fuel + 1 =>
    let test ← expr fuel depth
    expect .blockEnd
    let b ← body fuel depth ["endif", "else", "elif"]
    if ← accept (.name "else") then
      return .cond test b (← closedBody fuel depth "endif")
    else if ← accept (.name "elif") then
      return .cond test b [← condition fuel depth]
    else
      advance
      return .cond test b []
termination_by structural fuel

/-- Assignments with commas between them, up to the end of the tag. -/
def bindings (fuel depth : Nat) (first : Bool) : Step (List (Target × Expr)) := do
  match fuel with
  | 0 => fail
  | fuel + 1 =>
    if ← atAny [.blockEnd] then return []
    unless first do expect (.sign ",")
    let t ←
      if ← accept (.sign "(") then
        let t ← target fuel
        expect (.sign ")")
        pure t
      else Target.name <$> newName
    expect (.sign "=")
    let e ← expr fuel depth
    return (t, e) :: (← bindings fuel depth false)
termination_by structural fuel

end

end Reader

-- irreducible, since the bound on the steps of the reader is otherwise counted down wherever
-- something is said about a text that is not known
/-- The template that tokens describe. -/
@[irreducible]
def Tree.ofTokens (ts : List Token) : Except Fault Tree :=
  match (Reader.body (32 * ts.length + 64) Reader.depthLimit []).run { tokens := ts } with
  | .error fault => .error fault
  | .ok (b, s) => .ok { body := b, blocks := s.blocks }

/-- The template that a text describes. -/
def Tree.ofText (source : String) : Except Fault Tree :=
  Tree.ofTokens (tokens source)

end RowBindings.Template
