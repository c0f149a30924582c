import SchemaWrappers.Template.Arithmetic

namespace SchemaWrappers.Template

/-- A parameter of a function, with the value that it has if none is given. -/
structure Parameter where
  name : String
  fallback : Option Value := none

namespace Eval

def expectPlaces (owner : String) (args : Arguments) : Eval Unit := do
  if !args.names.isEmpty then kind s!"{owner}() takes no keyword arguments"

def expectNone (owner : String) (args : Arguments) : Eval Unit := do
  expectPlaces owner args
  if !args.places.isEmpty then
    kind s!"{owner}() takes no arguments ({args.places.length} given)"

def expectOne (owner : String) (args : Arguments) : Eval Value := do
  expectPlaces owner args
  match args.places with
  | [v] => return v
  | vs => kind s!"{owner}() takes exactly one argument ({vs.length} given)"

def plural (n : Nat) : String := if n == 1 then "argument" else "arguments"

def expectBetween (owner short : String) (low high : Nat) (args : Arguments) :
    Eval (List Value) := do
  expectPlaces owner args
  let n := args.places.length
  if n < low then
    if low == high then kind s!"{short} expected {low} {plural low}, got {n}"
    else kind s!"{short} expected at least {low} {plural low}, got {n}"
  else if high < n then
    if low == high then kind s!"{short} expected {low} {plural low}, got {n}"
    else kind s!"{short} expected at most {high} {plural high}, got {n}"
  else return args.places

/-- A whole number that counts or numbers something. -/
def index (v : Value) : Eval Int := do
  match v.whole? with
  | some n => return n
  | none => kind s!"'{v.sortName}' object cannot be interpreted as an integer"

def indexOr (vs : List Value) (i : Nat) (fallback : Int) : Eval Int := do
  match vs[i]? with
  | some v => index v
  | none => return fallback

def enumerated (names : List String) : String :=
  match names.map fun n => s!"'{n}'" with
  | [] => ""
  | [a] => a
  | [a, b] => s!"{a} and {b}"
  | quoted => ", ".intercalate quoted.dropLast ++ ", and " ++ quoted.getLast?.getD ""

/-- The values of the parameters of a function. The first ones, `hidden` of them, are given along
without being written. -/
def bindTo (owner : String) (hidden : List String) (ps : List Parameter) (args : Arguments) :
    Eval (List Value) := do
  let given := args.places.length
  if ps.length < given then
    let required := hidden.length + (ps.filter (·.fallback.isNone)).length
    let most := hidden.length + ps.length
    let takes := if required == most then s!"{most}" else s!"from {required} to {most}"
    let were := if given + hidden.length == 1 then "was" else "were"
    kind (s!"{owner}() takes {takes} positional {plural most} but " ++
      s!"{given + hidden.length} {were} given")
  for (n, _) in args.names do
    match ps.findIdx? (·.name == n) with
    | some i => if i < given then kind s!"{owner}() got multiple values for argument '{n}'"
    | none =>
      if hidden.contains n then kind s!"{owner}() got multiple values for argument '{n}'"
      else kind s!"{owner}() got an unexpected keyword argument '{n}'"
  let bound := ps.zipIdx.map fun (p, i) =>
    (p.name, (args.places[i]?).or ((args.names.lookup p.name).or p.fallback))
  let lacking := bound.filterMap fun (n, v) => if v.isNone then some n else none
  if !lacking.isEmpty then
    kind (s!"{owner}() missing {lacking.length} required positional " ++
      s!"{plural lacking.length}: {enumerated lacking}")
  return bound.filterMap (·.2)

end Eval
/-- A filter is a function on a value and arguments: its parameters, of which the first one is the value,
and the names that messages give it. Those that are `hidden` are given along with every use. -/
structure Filtering where
  owner : String
  hidden : List String := []
  parameters : List Parameter := [⟨"value", none⟩]
  run : Nat → (Nat → Value) → Eval Value

namespace Filtering

def required (n : String) : Parameter := ⟨n, none⟩
def optional (n : String) (v : Value) : Parameter := ⟨n, some v⟩
def optionalNone (n : String) : Parameter := ⟨n, some .none⟩
def flag (n : String) (b : Bool) : Parameter := ⟨n, some (.truth b)⟩

def apply (f : Filtering) (context : Nat) (v : Value) (args : Arguments) : Eval Value := do
  let vs ← Eval.bindTo f.owner f.hidden f.parameters { args with places := v :: args.places }
  let vs := vs.toArray
  f.run context fun i => vs[i]?.getD .none

end Filtering

end SchemaWrappers.Template
