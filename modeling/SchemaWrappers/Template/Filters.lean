import SchemaWrappers.Template.Filters.JsonText
import SchemaWrappers.Template.Filters.Numbers
import SchemaWrappers.Template.Filters.Sequences
import SchemaWrappers.Template.Filters.Texts

namespace SchemaWrappers.Template
open Eval

namespace Filters

def all : List (String × Filtering) := texts ++ numbers ++ sequences ++ jsonTexts

/-- The filters that take any arguments. -/
def openNames : List String := ["map", "select", "reject", "selectattr", "rejectattr", "format"]

/-- The filters that depend on where they are used. -/
def heldNames : List String := ["map", "select", "reject", "selectattr", "rejectattr", "random"]

def isKnown (name : String) : Bool := openNames.contains name || (all.lookup name).isSome

/-- Filters that take one argument and nothing else, and say so in their own way. -/
def strictNames : List (String × String) := [("abs", "abs"), ("count", "len"), ("length", "len")]

def apply (context : Nat) (name : String) (v : Value) (args : Arguments) : Eval Value := do
  let choose (along keeps : Bool) : Eval Value :=
    newWalk "generator" (.choiceOf v along keeps args context)
  match name with
  | "map" => newWalk "generator" (.changeOf v args context)
  | "select" => choose false true
  | "reject" => choose false false
  | "selectattr" => choose true true
  | "rejectattr" => choose true false
  | "format" =>
    if !args.places.isEmpty && !args.names.isEmpty then
      throw (.template "can't handle positional and keyword arguments at the same time")
    let (s, safe) ← softText v
    if args.names.isEmpty then percent s safe (.tuple args.places)
    else percent s safe (← newTable (args.names.map fun (n, v) => (.plain n, v)))
  | name =>
    match strictNames.lookup name, all.lookup name with
    | some owner, some f =>
      let v ← expectOne owner { args with places := v :: args.places }
      f.apply context v {}
    | none, some f => f.apply context v args
    | _, none => throw (.template s!"No filter named {Text.quote name} found.")

end Filters
end SchemaWrappers.Template
