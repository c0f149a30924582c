import SchemaWrappers.Method
import SchemaWrappers.Source
import SchemaWrappers.Text.Character

/-! The public surface of the builder classes: which classes of a program are meant, and which of
their members become wrapped methods. -/
namespace SchemaWrappers
open Syntax Text

/-- A class declaration at the top of a root source. -/
structure Builder where
  name : String
  source : Source
  node : Node

namespace Surface

/-- Statements that only wrap the declaration they make visible. -/
def wrapperKinds : List String := ["export_statement", "ambient_declaration"]

def classKinds : List String := ["class_declaration", "abstract_class_declaration"]

def methodKinds : List String :=
  ["method_signature", "method_definition", "abstract_method_signature"]

def parameterKinds : List String := ["required_parameter", "optional_parameter"]

def hiddenWords : List String := ["private", "protected"]

def accessorWords : List String := ["get", "set"]

def isWrapper (n : Node) : Bool := wrapperKinds.contains n.kind

/-- The declaration inside a wrapper: the one in its place, else the first node that is neither
comment nor decorator. -/
def inner? (n : Node) : Option Node :=
  match n.child? "declaration" with
  | some d => some d
  | none => n.namedChildren.find? fun c => c.kind != "comment" && c.kind != "decorator"

theorem inner?_mem {n m : Node} (h : inner? n = some m) : m ∈ n.children := by
  simp only [inner?] at h
  split at h
  · rename_i d hd
    simp only [Option.some.injEq] at h
    exact h ▸ List.mem_of_find?_eq_some hd
  · exact (List.mem_filter.1 (List.mem_of_find?_eq_some h)).1

/-- Takes all wrappers off. -/
def unwrap (n : Node) : Option Node :=
  if isWrapper n then
    match h : inner? n with
    | some m =>
      have := Node.size_lt_of_mem (inner?_mem h)
      unwrap m
    | none => none
  else some n
termination_by n.size

/-- The declarations of a file that stand in no namespace, block or class. -/
def topLevel (root : Node) : List Node := root.namedChildren.filterMap unwrap

/-- The class that a declaration makes, if its name is allowed. -/
def builder? (allowed : List String) (s : Source) (n : Node) : Option Builder := do
  guard (classKinds.contains n.kind)
  let name := s.textOf (← n.child? "name")
  guard (allowed.contains name)
  return ⟨name, s, n⟩

def builders (p : Program) (allowed : List String) : List Builder :=
  p.rootSources.flatMap fun s => (topLevel s.tree).filterMap (builder? allowed s)

def collapsed? (text : String) : Option String :=
  let text := collapse text
  if text.isEmpty then none else some text

/-- The type in an annotation, without the colon before it. -/
def annotationText (s : Source) (n : Node) : Option String :=
  match (trim (s.textOf n)).toList with
  | ':' :: cs => collapsed? (String.ofList cs)
  | cs => collapsed? (String.ofList cs)

/-- The type in a bound or a fallback: its last named part. -/
def innerTypeText (s : Source) (n : Node) : Option String := do
  collapsed? (s.textOf (← n.namedChildren.getLast?))

/-- A formal parameter: its node, what it binds, and whether it takes the remaining arguments. -/
structure Formal where
  node : Node
  binding : Option Node
  rest : Bool

namespace Formal

/-- A parameter node with a pattern other than the receiver. -/
def ofNode? (n : Node) : Option Formal := do
  guard (parameterKinds.contains n.kind)
  let pattern ← n.child? "pattern"
  guard (pattern.kind != "this")
  if pattern.kind == "rest_pattern" then return ⟨n, pattern.namedChildren.head?, true⟩
  return ⟨n, some pattern, false⟩

/-- The name it binds, unless it takes its argument apart. -/
def identifier? (s : Source) (f : Formal) : Option String := do
  let b ← f.binding
  guard (b.kind == "identifier")
  return s.textOf b

def annotation? (f : Formal) : Option Node :=
  (f.node.child? "type").or (f.node.namedChildren.find? (·.kind == "type_annotation"))

end Formal

/-- Puts up to `fuel` underscores before a name, until it is not taken. -/
def freeName (taken : List String) : Nat → String → String
  | 0, name => name
  | fuel + 1, name => if taken.contains name then freeName taken fuel ("_" ++ name) else name

def placeholder (taken : List String) (position : Nat) : String :=
  freeName taken taken.length s!"arg{position}"

/-- Names for the formals from `position` on; placeholders count as taken in turn. -/
def formalNames (s : Source) (taken : List String) (position : Nat) : List Formal → List String
  | [] => []
  | f :: fs =>
    match f.identifier? s with
    | some name => name :: formalNames s taken (position + 1) fs
    | none =>
      let name := placeholder taken position
      name :: formalNames s (name :: taken) (position + 1) fs

def parameterOf (s : Source) (f : Formal) (name : String) : Parameter where
  name := name
  type := f.annotation?.bind (annotationText s)
  optional := f.node.kind == "optional_parameter"
  rest := f.rest

def parameters (s : Source) (n : Node) : List Parameter :=
  let formals := n.namedChildren.filterMap Formal.ofNode?
  let names := formalNames s (formals.filterMap (·.identifier? s)) 0 formals
  List.zipWith (parameterOf s) formals names

def typeParameter? (s : Source) (n : Node) : Option TypeParameter := do
  guard (n.kind == "type_parameter")
  return {
    name := s.textOf (← n.child? "name")
    bound := (n.child? "constraint").bind (innerTypeText s)
    fallback := (n.child? "value").bind (innerTypeText s) }

def typeParameters (s : Source) (n : Node) : List TypeParameter :=
  n.namedChildren.filterMap (typeParameter? s)

/-- A word in a member that keeps it from the surface, `name` being the member's name. -/
def hides (s : Source) (name child : Node) : Bool :=
  (child.kind == "accessibility_modifier" && hiddenWords.contains (s.textOf child)) ||
    (!child.named && accessorWords.contains child.kind && child.start < name.start)

def declaration (b : Builder) (member name : Node) : Overload where
  owner := b.name
  name := b.source.textOf name
  parameters := (member.child? "parameters").elim [] (parameters b.source)
  typeParameters := (member.child? "type_parameters").elim [] (typeParameters b.source)
  returns := (member.child? "return_type").bind (annotationText b.source)

/-- The overload that a class member declares: a public method with a plain name. -/
def overload? (b : Builder) (member : Node) : Option Overload := do
  guard (methodKinds.contains member.kind)
  let name ← member.child? "name"
  guard (name.kind == "property_identifier")
  guard (!member.children.any (hides b.source name))
  return declaration b member name

def members (b : Builder) : List Overload :=
  match b.node.child? "body" with
  | some body => body.namedChildren.filterMap (overload? b)
  | none => []

def overloads (bs : List Builder) : List Overload := bs.flatMap members

end Surface
end SchemaWrappers
