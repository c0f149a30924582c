import SchemaWrappers.Method
import SchemaWrappers.Vocabulary.Qualify

namespace SchemaWrappers.DocBlock

def opening : String := "/**"
def closing : String := " */"
def emptyLine : String := " *"

/-- Stands for the type of a parameter that declares none. -/
def unknownType : String := "*"

def description (text : String) : String := " * " ++ text

def given : Option String → Option String
  | some s => if s.isEmpty then none else some s
  | none => none

def template (name : String) (bound fallback : Option String) : String :=
  let head := " * @template " ++ match given bound with
    | some b => "\x7b" ++ b ++ "\x7d "
    | none => ""
  match given fallback with
  | some f => head ++ "[" ++ name ++ "=" ++ f ++ "]"
  | none => head ++ name

def param (type name : String) (optional : Bool) : String :=
  " * @param \x7b" ++ type ++ "\x7d " ++ if optional then "[" ++ name ++ "]" else name

def returns (type : String) : String := " * @returns \x7b" ++ type ++ "\x7d"

def templateTag (patch : String → String) (t : TypeParameter) : String :=
  template t.name ((given t.bound).map patch) ((given t.fallback).map patch)

/-- The documented type; an array type of a parameter that takes the remaining arguments is shown
by its element type. -/
def parameterType (patch : String → String) (p : Parameter) (rest : Bool) : String :=
  match given p.type with
  | none => unknownType
  | some type =>
    let shown := patch type
    if rest && "[]".toList.isSuffixOf shown.toList then
      "..." ++ String.ofList (shown.toList.take (shown.toList.length - 2))
    else shown

def parameterTag (patch : String → String) (m : Method) (p : Parameter) : String :=
  let holds (answer : Except MethodError Bool) : Bool :=
    match answer with
    | .ok b => b
    | .error _ => false
  param (parameterType patch p (holds (m.isRest p.name))) p.name (holds (m.isOptional p.name))

/-- The tags: type parameters of the first overload, merged parameters, result of the first. -/
def tags (patch : String → String) (m : Method) : List String :=
  let first := m.overloads.head?
  (first.elim [] (·.typeParameters)).map (templateTag patch) ++
    m.merged.map (parameterTag patch m) ++
    ((first.bind fun o => given o.returns).map fun r => returns (patch r)).toList

def lines (patch : String → String) (m : Method) : List String :=
  let tags := tags patch m
  [opening, description m.description] ++ (if tags.isEmpty then [] else emptyLine :: tags) ++
    [closing]

/-- The block that documents a method, its type texts passed through `patch`. -/
def block (patch : String → String) (m : Method) : String := "\n".intercalate (lines patch m)

end SchemaWrappers.DocBlock
