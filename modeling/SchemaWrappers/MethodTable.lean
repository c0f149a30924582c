import SchemaWrappers.Log.Record
import SchemaWrappers.Method
import SchemaWrappers.Text.Casing

/-! Overloads grouped into methods, in alphabetical order. -/
namespace SchemaWrappers

namespace MethodTable

/-- The alphabetical order: by what `fold` makes of names, then by code points. -/
def nameLe (fold : String → String) (a b : String) : Bool :=
  let fa := fold a
  let fb := fold b
  fa < fb || (fa == fb && a ≤ b)

/-- The declared names, each once, in alphabetical order. -/
def names (fold : String → String) (overloads : List Overload) : List String :=
  (distinct (overloads.map (·.name))).mergeSort (nameLe fold)

/-- The overloads under each declared name, the names in order of discovery. -/
abbrev Groups := List (String × List Overload)

def file (o : Overload) : Groups → Groups
  | [] => [(o.name, [o])]
  | (n, os) :: groups => if n == o.name then (n, os ++ [o]) :: groups else (n, os) :: file o groups

def groups (overloads : List Overload) : Groups := overloads.foldl (fun gs o => file o gs) []

/-- What becomes of a name. One without overloads is skipped. -/
inductive Outcome where
  | method (m : Method)
  | skipped (name : String)

namespace Outcome

def method? : Outcome → Option Method
  | method m => some m
  | skipped _ => none

def warning? : Outcome → Option Log.Record
  | method _ => none
  | skipped name =>
    some (Log.warning "collector" s!"No declarations found for method {name}; skipping")

end Outcome

def outcome (groups : Groups) (name : String) : Except MethodError Outcome := do
  match groups.lookup name with
  | none | some [] => return .skipped name
  | some overloads => return .method ((← Method.new name).add overloads).merge

def outcomes (fold : String → String) (overloads : List Overload) :
    Except MethodError (List Outcome) :=
  (names fold overloads).mapM (outcome (groups overloads))

def methods (fold : String → String) (overloads : List Overload) :
    Except MethodError (List Method) := do
  return (← outcomes fold overloads).filterMap Outcome.method?

end MethodTable

/-- The declared names, each once, in alphabetical order without regard to case. -/
def methodNames (overloads : List Overload) : List String := MethodTable.names Text.fold overloads

/-- One method for each declared name, in alphabetical order without regard to case. -/
def buildMethods (overloads : List Overload) : Except MethodError (List Method) :=
  MethodTable.methods Text.fold overloads

end SchemaWrappers
