/-! Builder methods: the declarations of one name, and the parameters merged from them. -/
namespace SchemaWrappers

section
variable {α β : Type} [BEq β]

/-- The first elements whose keys are not among `seen`. -/
def firstsFrom (key : α → β) (seen : List β) : List α → List α
  | [] => []
  | a :: as =>
    if seen.contains (key a) then firstsFrom key seen as
    else a :: firstsFrom key (key a :: seen) as

def firstsBy (key : α → β) (as : List α) : List α := firstsFrom key [] as

/-- The elements without repetitions. -/
def distinct (as : List β) : List β := firstsBy id as

end

/-- A generic parameter with its optional bound and fallback type. -/
structure TypeParameter where
  name : String
  bound : Option String := none
  fallback : Option String := none
  deriving DecidableEq, Repr

structure Parameter where
  name : String
  type : Option String := none
  optional : Bool := false
  /-- Takes all the remaining arguments. -/
  rest : Bool := false
  deriving DecidableEq, Repr

/-- One declaration of a method in the class `owner`: an overload. -/
structure Overload where
  owner : String
  name : String
  parameters : List Parameter := []
  typeParameters : List TypeParameter := []
  returns : Option String := none
  deriving DecidableEq, Repr

namespace Overload

def declares (o : Overload) (name : String) : Bool := o.parameters.any (·.name == name)

end Overload

/-- The overloads of one name. `merged` holds the parameters as of the last merge. -/
structure Method where
  name : String
  overloads : List Overload := []
  merged : List Parameter := []
  deriving DecidableEq, Repr

inductive MethodError where
  | emptyName
  | unknownParameter (name : String)
  deriving DecidableEq, Repr

def MethodError.message : MethodError → String
  | .emptyName => "Method name must not be empty"
  | .unknownParameter name => name

namespace Method

def new (name : String) : Except MethodError Method :=
  if name.isEmpty then .error .emptyName else .ok { name }

def add (m : Method) (overloads : List Overload) : Method :=
  { m with overloads := m.overloads ++ overloads }

/-- Pools the parameters of all overloads; of one name the first record counts. -/
def merge (m : Method) : Method :=
  { m with merged := firstsBy (·.name) (m.overloads.flatMap (·.parameters)) }

def parameterNames (m : Method) : List String := m.merged.map (·.name)

def parameter (m : Method) (name : String) : Except MethodError Parameter :=
  match m.merged.find? (·.name == name) with
  | some p => .ok p
  | none => .error (.unknownParameter name)

/-- Optional when first declared so, or when some overload does without it. -/
def isOptional (m : Method) (name : String) : Except MethodError Bool := do
  let p ← m.parameter name
  return p.optional || m.overloads.any fun o => !o.declares name

/-- A rest parameter stays one only while it closes the merged list. -/
def isRest (m : Method) (name : String) : Except MethodError Bool := do
  let p ← m.parameter name
  return p.rest && m.parameterNames.getLast? == some name

def rendered (m : Method) (name : String) : String :=
  match m.isRest name with
  | .ok true => "..." ++ name
  | _ => name

/-- The signature, which serves the call as well. -/
def renderedParameters (m : Method) : List String := m.parameterNames.map m.rendered

def description (m : Method) : String := s!"Creates a schema for a `{m.name}` type."

end Method
end SchemaWrappers
