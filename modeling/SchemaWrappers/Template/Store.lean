import SchemaWrappers.Template.Inquiry
import SchemaWrappers.Template.Value

namespace SchemaWrappers.Template

/-- Where an expression or a part stands: the innermost body with its names, the context that other
names are looked up in, the template, whether texts are escaped there and whether that is open until
the template is filled in, whether it stands outside every body but choices, whether its text is
dropped once the template extends another one, the place that notes which one, how many bodies
around collect what is put out, and the text that a filter without an input is applied to. -/
structure Env where
  frame : Nat
  context : Nat
  template : String
  escape : Bool := false
  varies : Bool := false
  top : Bool := false
  guarded : Bool := false
  run : Nat := 0
  collecting : Nat := 0
  body : Value := .none

/-- What is done with each item by a walk that changes items. -/
inductive Change where
  | entry (path : List Value) (fallback : Option Value)
  | filter (name : String) (args : Arguments)

/-- What items a walk keeps: those of which what lies along a path passes a test, or holds. -/
structure Choice where
  path : List Value
  test : Option (String × Arguments)
  keeps : Bool

/-- Walks whose items are all worked out when the first one is asked for: items in groups of one
size, in so many groups, without repetitions, and the entries of a table. -/
inductive Gathering where
  | batches (input size fill : Value)
  | groups (input count fill : Value)
  | distinct (input : Value) (exact : Bool) (path : List Value)
  | entries (input : Value)

/-- How a walk goes on. One that has not begun yet knows what it will run through. -/
inductive Way where
  | done
  | items (rest : List Value)
  | list (cell next : Nat)
  | listBack (cell count : Nat)
  | table (side : View) (cell next size : Nat)
  | span (next step : Int) (count : Nat)
  | rounds (loop : Nat)
  | changeOf (input : Value) (args : Arguments) (context : Nat)
  | changed (walk : Nat) (change : Change) (context : Nat)
  | choiceOf (input : Value) (along keeps : Bool) (args : Arguments) (context : Nat)
  | chosen (walk : Nat) (choice : Choice) (context : Nat)
  | gathering (g : Gathering)
  | only (walk : Nat) (target : Target) (condition : Expr) (env : Env)

/-- A loop as it stands in its template; one that is `counted` tells how far it is, and one that is
`recursive` can be entered again for what an item holds. -/
structure Nested where
  target : Target
  only : Option Expr
  body : List Part
  otherwise : List Part
  counted : Bool
  recursive : Bool
  env : Env

/-- How far a loop is. -/
structure Round where
  source : Value
  walk : Nat
  index : Int := -1
  length : Option Nat := none
  next : Value := .missing
  current : Value := .missing
  before : Value := .missing
  noted : Option (List Value) := none
  nested : Option Nested := none
  depth : Nat := 0

/-- A macro and where it was defined; `caller`, `names` and `places` tell whether it asks for the
body of a call, for further names, and for further arguments. -/
structure Routine where
  body : Macro
  env : Env
  caller : Bool
  names : Bool
  places : Bool

inductive Cell where
  | list (items : Array Value)
  | table (entries : List (Value × Value))
  | walk (way : Way)
  | loop (r : Round)
  | cycler (items : List Value) (next : Nat)
  | joiner (separator : Value) (used : Bool)
  | routine (r : Routine)
  | library (template : String) (names : List (String × Value)) (text : Array Value)

/-- The names of a body, those that it gives values to, and the body around it. -/
structure Frame where
  names : List (String × Value)
  stores : List String := []
  outer : Option Nat := none

/-- A block as one template defines it. -/
structure BlockBody where
  template : String
  body : List Part

/-- What names stand for beyond the bodies of a template: those that it is filled in with, those
that its top sets, and its blocks with what they override. -/
structure Context where
  template : String
  fixed : List (String × Value)
  set : List (String × Value) := []
  exported : List String := []
  blocks : List (String × List BlockBody) := []
  escape : Nat

/-- A template ready to be filled in, with its blocks, and whether it may extend another one. -/
structure Prepared where
  name : String
  parts : List Part
  blocks : List (String × List Part)
  mayExtend : Bool

structure Store where
  cells : Array Cell := #[]
  frames : Array Frame := #[]
  contexts : Array Context := #[]
  escapes : Array Bool := #[]
  extended : Array (Option Prepared) := #[]
  templates : List (String × Prepared) := []
  libraries : List (String × Nat) := []
  out : Array Value := #[]
  held : List (Array Value) := []
  depth : Nat := 0

/-- What a step did to the store stays done if it fails. -/
abbrev Machine := ExceptT Fault (StateT Store Inquiry)

/-- How expressions and parts are worked out, values called, walks taken further, and filters and
tests applied by name; more rounds than any loop has; how many levels deeper it can go; and the directory
that messages about other templates name. -/
structure Engine where
  expr : Env → Expr → Machine Value
  parts : Env → List Part → Machine Unit
  call : Env → Value → Arguments → Machine Value
  next : Nat → Machine (Option Value)
  filter : Nat → String → Value → Arguments → Machine Value
  test : Nat → String → Value → Arguments → Machine Value
  rounds : Nat
  levels : Nat
  folder : String

abbrev Eval := ReaderT Engine Machine

namespace Eval

def expr (env : Env) (e : Expr) : Eval Value := fun g => g.expr env e
def parts (env : Env) (ps : List Part) : Eval Unit := fun g => g.parts env ps
def call (env : Env) (f : Value) (args : Arguments) : Eval Value := fun g => g.call env f args
def next (walk : Nat) : Eval (Option Value) := fun g => g.next walk

def filter (context : Nat) (name : String) (v : Value) (args : Arguments) : Eval Value :=
  fun g => g.filter context name v args

def test (context : Nat) (name : String) (v : Value) (args : Arguments) : Eval Value :=
  fun g => g.test context name v args

def ask (name : String) : Eval Found := fun _ => monadLift (Inquiry.ask name .done)

def draw (below : Nat) : Eval Nat := fun _ => monadLift (Inquiry.draw below .done)

def unfollowed : Eval α := throw .unfollowed

def kind (message : String) : Eval α := throw (.kind message)
def value (message : String) : Eval α := throw (.value message)
def absent (message : String) : Eval α := throw (.absent message)

def addCell (c : Cell) : Eval Nat := do
  let n := (← get).cells.size
  modify fun s => { s with cells := s.cells.push c }
  return n

def setCell (n : Nat) (c : Cell) : Eval Unit :=
  modify fun s => { s with cells := s.cells.setIfInBounds n c }

def cell (n : Nat) : Eval Cell := return ((← get).cells[n]?).getD (.list #[])

def newList (items : List Value) : Eval Value := return .list (← addCell (.list items.toArray))

def newWalk (sort : String) (way : Way) : Eval Value := return .walk sort (← addCell (.walk way))

def items (n : Nat) : Eval (Array Value) := do
  match ← cell n with
  | .list items => return items
  | _ => return #[]

def entries (n : Nat) : Eval (List (Value × Value)) := do
  match ← cell n with
  | .table es => return es
  | _ => return []

def round (n : Nat) : Eval Round := do
  match ← cell n with
  | .loop r => return r
  | _ => return { source := .none, walk := n }

def addFrame (f : Frame) : Eval Nat := do
  let n := (← get).frames.size
  modify fun s => { s with frames := s.frames.push f }
  return n

def frame (n : Nat) : Eval Frame := return ((← get).frames[n]?).getD { names := [] }

def setFrame (n : Nat) (f : Frame) : Eval Unit :=
  modify fun s => { s with frames := s.frames.setIfInBounds n f }

def addContext (c : Context) : Eval Nat := do
  let n := (← get).contexts.size
  modify fun s => { s with contexts := s.contexts.push c }
  return n

def context (n : Nat) : Eval Context :=
  return ((← get).contexts[n]?).getD { template := "", fixed := [], escape := 0 }

def changeContext (n : Nat) (f : Context → Context) : Eval Unit := do
  let c ← context n
  modify fun s => { s with contexts := s.contexts.setIfInBounds n (f c) }

def addEscape (on : Bool) : Eval Nat := do
  let n := (← get).escapes.size
  modify fun s => { s with escapes := s.escapes.push on }
  return n

def setEscape (n : Nat) (on : Bool) : Eval Unit := do
  let c ← context n
  modify fun s => { s with escapes := s.escapes.setIfInBounds c.escape on }

def extended (run : Nat) : Eval (Option Prepared) := return ((← get).extended[run]?).getD none

def setExtended (run : Nat) (t : Prepared) : Eval Unit :=
  modify fun s => { s with extended := s.extended.setIfInBounds run (some t) }

def escapes (n : Nat) : Eval Bool := do
  let c ← context n
  return ((← get).escapes[c.escape]?).getD false

def put (v : Value) : Eval Unit := modify fun s => { s with out := s.out.push v }

/-- Puts values out past so many bodies that collect what is put out. -/
def putPast (bodies : Nat) (vs : Array Value) : Eval Unit := do
  match bodies with
  | 0 => modify fun s => { s with out := s.out ++ vs }
  | n + 1 => modify fun s => { s with held := s.held.modify n (· ++ vs) }

/-- What is put out meanwhile. -/
def captured (run : Eval Unit) : Eval (Array Value) := do
  modify fun s => { s with held := s.out :: s.held, out := #[] }
  run
  let out := (← get).out
  modify fun s => { s with held := s.held.tail, out := s.held.head?.getD #[] }
  return out

end Eval

/-- Does a step again and again until it says that it is done; so often at most. -/
def Eval.repeated (step : σ → Eval (σ × Bool)) : Nat → σ → Eval σ
  | 0, s => pure s
  | n + 1, s => do
    let (s, done) ← step s
    if done then pure s else Eval.repeated step n s

def Eval.untilDone (step : σ → Eval (σ × Bool)) (s : σ) : Eval σ :=
  fun g => Eval.repeated step g.rounds s g

namespace Assoc

/-- Sets the value of a name, in its place if it has one. -/
def set (names : List (String × α)) (n : String) (v : α) : List (String × α) :=
  if names.any (·.1 == n) then names.map fun p => if p.1 == n then (n, v) else p
  else names ++ [(n, v)]

end Assoc
end SchemaWrappers.Template
