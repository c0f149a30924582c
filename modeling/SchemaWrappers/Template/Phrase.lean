import SchemaWrappers.Template.Cursor

namespace SchemaWrappers.Template.Reader

def operation? (level : List (String × Operation)) : ReaderM (Option Operation) := do
  match ← peek with
  | some (.mark m) => match level.lookup m with
    | some op => advance; return some op
    | none => return none
  | _ => return none

def comparisons : List (String × Comparison) :=
  [("==", .equal), ("!=", .different), ("<", .less), ("<=", .atMost), (">", .more),
    (">=", .atLeast)]

def comparison? : ReaderM (Option Comparison) := do
  match ← peek with
  | some (.mark m) => match comparisons.lookup m with
    | some c => advance; return some c
    | none => return none
  | some (.name "in") => advance; return some .within
  | some (.name "not") =>
    if isName "in" (← peekAfter) then
      advance
      advance
      return some .without
    else return none
  | _ => return none

def leftward (level : List (String × Operation)) (operand : ReaderM Expr) :
    Nat → Expr → ReaderM Expr
  | 0, _ => tooDeep
  | fuel + 1, left => do
    match ← operation? level with
    | some op => leftward level operand fuel (.operate op left (← operand))
    | none => return left

def worded (word : String) (make : Expr → Expr → Expr) (operand : ReaderM Expr) :
    Nat → Expr → ReaderM Expr
  | 0, _ => tooDeep
  | fuel + 1, left => do
    if ← acceptName word then worded word make operand fuel (make left (← operand))
    else return left

def adjacent : Nat → ReaderM String
  | 0 => pure ""
  | fuel + 1 => do
    match ← peek with
    | some (.text s) => advance; return s ++ (← adjacent fuel)
    | _ => return ""

/-- What may follow a test as its argument without brackets. -/
def startsArgument : Option Token → Bool
  | some (.name n) => !(["else", "or", "and"].contains n)
  | some (.text _) | some (.whole _) | some (.decimal _) => true
  | some (.mark m) => ["(", "[", "\x7b"].contains m
  | _ => false

def endsTuple (stops : List String) : Option Token → Bool
  | some .outputEnd | some .tagEnd | some (.mark ")") => true
  | some (.name n) => stops.contains n
  | _ => false

mutual
def expr (choices : Bool) : Nat → ReaderM Expr
  | 0 => tooDeep
  | fuel + 1 => do
    let start ← line
    let e ← either fuel
    if choices then choice start fuel e else return e

def choice (start : Nat) : Nat → Expr → ReaderM Expr
  | 0, _ => tooDeep
  | fuel + 1, yes => do
    if ← acceptName "if" then
      let condition ← either fuel
      let no ← if ← acceptName "else" then pure (some (← expr true fuel)) else pure none
      choice (← line) fuel (.choose start condition yes no)
    else return yes

def either : Nat → ReaderM Expr
  | 0 => tooDeep
  | fuel + 1 => do worded "or" .either (both fuel) fuel (← both fuel)

def both : Nat → ReaderM Expr
  | 0 => tooDeep
  | fuel + 1 => do worded "and" .both (negation fuel) fuel (← negation fuel)

def negation : Nat → ReaderM Expr
  | 0 => tooDeep
  | fuel + 1 => do
    if ← acceptName "not" then return .not (← negation fuel)
    else
      let first ← sum fuel
      match ← compared fuel with
      | [] => return first
      | others => return .compare first others

def compared : Nat → ReaderM (List (Comparison × Expr))
  | 0 => tooDeep
  | fuel + 1 => do
    match ← comparison? with
    | some c =>
      let e ← sum fuel
      return (c, e) :: (← compared fuel)
    | none => return []

def sum : Nat → ReaderM Expr
  | 0 => tooDeep
  | fuel + 1 => do
    leftward [("+", .add), ("-", .subtract)] (joined fuel) fuel (← joined fuel)

def joined : Nat → ReaderM Expr
  | 0 => tooDeep
  | fuel + 1 => do
    let first ← product fuel
    match ← joinedTo fuel with
    | [] => return first
    | others => return .join (first :: others)

def joinedTo : Nat → ReaderM (List Expr)
  | 0 => tooDeep
  | fuel + 1 => do
    if ← acceptMark "~" then
      let e ← product fuel
      return e :: (← joinedTo fuel)
    else return []

def product : Nat → ReaderM Expr
  | 0 => tooDeep
  | fuel + 1 => do
    leftward [("*", .multiply), ("/", .divide), ("//", .quotient), ("%", .remainder)]
      (power fuel) fuel (← power fuel)

def power : Nat → ReaderM Expr
  | 0 => tooDeep
  | fuel + 1 => do leftward [("**", .power)] (signed true fuel) fuel (← signed true fuel)

def signed (filters : Bool) : Nat → ReaderM Expr
  | 0 => tooDeep
  | fuel + 1 => do
    let e ←
      if ← acceptMark "-" then pure (Expr.minus (← signed false fuel))
      else if ← acceptMark "+" then pure (Expr.plus (← signed false fuel))
      else primary fuel
    let e ← suffixed fuel e
    if filters then filtered fuel e else return e

def primary : Nat → ReaderM Expr
  | 0 => tooDeep
  | fuel + 1 => do
    match ← peek with
    | some (.name n) =>
      advance
      return ((constants.lookup n).map Expr.constant).getD (.name n)
    | some (.text s) => advance; return .constant (.text (s ++ (← adjacent fuel)) false)
    | some (.whole n) => advance; return .constant (.whole n)
    | some (.decimal x) => advance; return .constant (.decimal x)
    | some (.mark "(") =>
      advance
      let e ← tuple true true [] fuel
      demandMark ")"
      return e
    | some (.mark "[") => advance; return .list (← listed "]" (expr true fuel) fuel true)
    | some (.mark "\x7b") => advance; return .table (← listed "\x7d" (pair fuel) fuel true)
    | _ => fail s!"unexpected {Text.quote (← label)}"

def pair : Nat → ReaderM (Expr × Expr)
  | 0 => tooDeep
  | fuel + 1 => do
    let key ← expr true fuel
    demandMark ":"
    return (key, ← expr true fuel)

def tuple (choices bracketed : Bool) (stops : List String) : Nat → ReaderM Expr
  | 0 => tooDeep
  | fuel + 1 => do
    match ← tupleItems choices stops fuel with
    | ([], _) =>
      if bracketed then return .tuple []
      else fail s!"Expected an expression, got {Text.quote (← label)}"
    | ([e], false) => return e
    | (es, _) => return .tuple es

def tupleItems (choices : Bool) (stops : List String) : Nat → ReaderM (List Expr × Bool)
  | 0 => tooDeep
  | fuel + 1 => do
    if endsTuple stops (← peek) then return ([], false)
    else
      let e ← expr choices fuel
      if ← acceptMark "," then return (e :: (← tupleItems choices stops fuel).1, true)
      else return ([e], false)

def suffixed : Nat → Expr → ReaderM Expr
  | 0, _ => tooDeep
  | fuel + 1, e => do
    if ← acceptMark "." then
      match ← peek with
      | some (.name n) => advance; suffixed fuel (.field e n)
      | some (.whole n) => advance; suffixed fuel (.item e (.constant (.whole n)))
      | _ => advance; fail "expected name or number"
    else if ← acceptMark "[" then suffixed fuel (← subscript fuel e)
    else if ← acceptMark "(" then suffixed fuel (.call e (← arguments fuel true {}))
    else return e

/-- One index, or several with commas between them, up to the closing bracket. -/
def subscript : Nat → Expr → ReaderM Expr
  | 0, _ => tooDeep
  | fuel + 1, e => do
    if isMark ":" (← peek) then slice fuel e none
    else
      match ← indices fuel true with
      | [i] => if isMark ":" (← peek) then slice fuel e (some i) else
        demandMark "]"
        return .item e i
      | is =>
        demandMark "]"
        return .item e (.tuple is)

def indices : Nat → Bool → ReaderM (List Expr)
  | 0, _ => tooDeep
  | fuel + 1, first => do
    let next ← peek
    if isMark "]" next || isMark ":" next then return []
    else
      if !first then demandMark ","
      let i ← expr true fuel
      return i :: (← indices fuel false)

def slice : Nat → Expr → Option Expr → ReaderM Expr
  | 0, _, _ => tooDeep
  | fuel + 1, e, start => do
    let bound : ReaderM (Option Expr) := do
      let next ← peek
      if [":", "]", ","].any (isMark · next) then return none else return some (← expr true fuel)
    demandMark ":"
    let stop ← bound
    let step ← if ← acceptMark ":" then bound else pure none
    demandMark "]"
    return .slice e start stop step

/-- Arguments up to the closing bracket; those by place come before those by name. -/
def arguments : Nat → Bool → Given Expr → ReaderM (Given Expr)
  | 0, _, _ => tooDeep
  | fuel + 1, first, given => do
    if ← acceptMark ")" then return given
    else
      if !first then demandMark ","
      if !first && (← acceptMark ")") then return given
      else
        let ensure (fits : Bool) : ReaderM Unit := do
          if !fits then fail "invalid syntax for function call expression"
        if isMark "*" (← peek) then
          ensure (given.morePlaces.isNone && given.moreNames.isNone)
          advance
          let e ← expr true fuel
          arguments fuel false { given with morePlaces := some e }
        else if isMark "**" (← peek) then
          ensure given.moreNames.isNone
          advance
          let e ← expr true fuel
          arguments fuel false { given with moreNames := some e }
        else
          match ← peek, isMark "=" (← peekAfter) with
          | some (.name n), true =>
            ensure given.moreNames.isNone
            advance
            advance
            let value ← expr true fuel
            arguments fuel false { given with names := given.names ++ [(n, value)] }
          | _, _ =>
            ensure (given.morePlaces.isNone && given.moreNames.isNone && given.names.isEmpty)
            let value ← expr true fuel
            arguments fuel false { given with places := given.places ++ [value] }

def filtered : Nat → Expr → ReaderM Expr
  | 0, _ => tooDeep
  | fuel + 1, e => do
    if ← acceptMark "|" then filtered fuel (← filterCall fuel (some e))
    else if ← acceptName "is" then filtered fuel (← tested fuel e)
    else if ← acceptMark "(" then filtered fuel (.call e (← arguments fuel true {}))
    else return e

def filterCall : Nat → Option Expr → ReaderM Expr
  | 0, _ => tooDeep
  | fuel + 1, e => do
    let name ← dotted fuel
    let given ← if ← acceptMark "(" then arguments fuel true {} else pure {}
    return .filter e name given

def tested : Nat → Expr → ReaderM Expr
  | 0, _ => tooDeep
  | fuel + 1, e => do
    let negated ← acceptName "not"
    let name ← dotted fuel
    let given ←
      if ← acceptMark "(" then arguments fuel true {}
      else if startsArgument (← peek) then
        if isName "is" (← peek) then fail "You cannot chain multiple tests with is"
        pure { places := [← suffixed fuel (← primary fuel)] }
      else pure {}
    let t := Expr.test e name given
    return if negated then .not t else t
end

/-- Filters one behind the other, the first without a bar before it; they are applied to the text
of a body. -/
def filterChain : Nat → Option Expr → ReaderM Expr
  | 0, _ => tooDeep
  | fuel + 1, e => do
    let e ← filterCall fuel e
    if ← acceptMark "|" then filterChain fuel (some e) else return e

end SchemaWrappers.Template.Reader
