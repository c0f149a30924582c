import SchemaWrappers.Template.Filters

namespace SchemaWrappers.Template
open Eval

namespace Tests
open Filtering (required)

def answer (owner : String) (parameters : List String) (run : (Nat → Value) → Eval Bool) : Filtering :=
  { owner, parameters := parameters.map required, run := fun _ v => return .truth (← run v) }

def plain (owner : String) (holds : Value → Bool) : Filtering :=
  answer owner ["value"] fun v => return holds (v 0)

/-- What is left when a number is divided, compared with another one. -/
def leaves (a b : Value) (rest : Int) : Eval Bool := do
  equal (← operate .remainder a b) (.whole rest)

def isFloat : Value → Bool
  | .decimal _ => true
  | _ => false

/-- Whether entries of a value can be asked for by their places or keys, and counted. -/
def isSequence : Value → Bool
  | .text .. | .tuple _ | .group .. | .span .. | .list _ | .table _ | .absent false _ => true
  | _ => false

def isCallable : Value → Bool
  | .absent .. | .loop _ | .joiner _ | .routine _ | .block .. | .member .. | .function _ | .sort _ =>
    true
  | _ => false

/-- The tests that compare, with what they do and the name that messages give them. -/
def comparisons : List (String × Comparison × String) :=
  [("==", .equal, "eq"), ("eq", .equal, "eq"), ("equalto", .equal, "eq"),
    ("!=", .different, "ne"), ("ne", .different, "ne"),
    (">", .more, "gt"), ("gt", .more, "gt"), ("greaterthan", .more, "gt"),
    ("ge", .atLeast, "ge"), (">=", .atLeast, "ge"),
    ("<", .less, "lt"), ("lt", .less, "lt"), ("lessthan", .less, "lt"),
    ("<=", .atMost, "le"), ("le", .atMost, "le")]

def others : List (String × Filtering) :=
  [("odd", answer "test_odd" ["value"] fun v => leaves (v 0) (.whole 2) 1),
    ("even", answer "test_even" ["value"] fun v => leaves (v 0) (.whole 2) 0),
    ("divisibleby", answer "test_divisibleby" ["value", "num"] fun v => leaves (v 0) (v 1) 0),
    ("defined", plain "test_defined" fun v => !(v matches .absent ..)),
    ("undefined", plain "test_undefined" fun v => v matches .absent ..),
    ("none", plain "test_none" fun v => v matches .none),
    ("boolean", plain "test_boolean" fun v => v matches .truth _),
    ("false", plain "test_false" fun v => v matches .truth false),
    ("true", plain "test_true" fun v => v matches .truth true),
    ("integer", plain "test_integer" fun v => v matches .whole _),
    ("float", plain "test_float" isFloat),
    ("lower", answer "test_lower" ["value"] fun v => return Text.allLower (← textOf (v 0))),
    ("upper", answer "test_upper" ["value"] fun v => return Text.allUpper (← textOf (v 0))),
    ("string", plain "test_string" fun v => v matches .text ..),
    ("mapping", plain "test_mapping" fun v => v matches .table _),
    ("number", plain "test_number" fun v => v.whole?.isSome || isFloat v),
    ("sequence", plain "test_sequence" isSequence),
    ("sameas", answer "test_sameas" ["value", "other"] fun v => return Value.same (v 0) (v 1)),
    ("iterable", answer "test_iterable" ["value"] fun v => isIterable (v 0)),
    ("escaped", plain "test_escaped" isSafe),
    ("in", answer "test_in" ["value", "seq"] fun v => within (v 0) (v 1))]

def names : List String :=
  others.map (·.1) ++ comparisons.map (·.1) ++ ["callable", "filter", "test"]

def isKnown (name : String) : Bool := names.contains name

def named (owner : String) (isKnown : String → Bool) : Filtering :=
  { owner, hidden := ["env"], parameters := [required "value"]
    run := fun _ v => do
      hashable 100 (v 0)
      return .truth (match v 0 with
        | .text s _ => isKnown s
        | _ => false) }

def apply (context : Nat) (name : String) (v : Value) (args : Arguments) : Eval Value := do
  match comparisons.lookup name, others.lookup name, name with
  | some (c, short), _, _ =>
    if !args.names.isEmpty then kind s!"_operator.{short}() takes no keyword arguments"
    match args.places with
    | [w] => return .truth (← compare c v w)
    | ws => kind s!"{short} expected 2 arguments, got {ws.length + 1}"
  | none, some f, _ => f.apply context v args
  | none, none, "callable" =>
    return .truth (isCallable (← expectOne "callable" { args with places := v :: args.places }))
  | none, none, "filter" => (named "test_filter" Filters.isKnown).apply context v args
  | none, none, "test" => (named "test_test" isKnown).apply context v args
  | none, none, name => throw (.template s!"No test named {Text.quote name} found.")

end Tests
end SchemaWrappers.Template
