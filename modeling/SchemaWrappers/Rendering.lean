import SchemaWrappers.DocBlock
import SchemaWrappers.Template.Engine
import SchemaWrappers.World

/-! Rendering the generated module: methods are filled into a template. -/
namespace SchemaWrappers

/-- The names by which the generated module knows the library: what it is imported as, from where,
and which of its values has the methods. -/
structure Library where
  namespaceName : String
  moduleName : String
  instanceName : String
  deriving DecidableEq, Repr

namespace Rendering
open Template (Eval Fault Shelf Stub Value)

/-- The file name of the template that comes with the program. -/
def bundledName : String := "builder.js.j2"

def bundledLines : List String :=
  ["«# Module template for buildergen, rendered once per run. #»",
    "// This file is generated by buildergen. Do not edit it by hand.",
    "import * as «namespace» from \"«module»\";",
    "«% for method in methods %»",
    "",
    "«method.comment»",
    "export function «method.name»(«method.params») \x7b",
    "  return «namespace».«instance».«method.name»(«method.params»);",
    "\x7d",
    "«% endfor %»"]

/-- The template that comes with the program. -/
def bundledText : String := String.join (bundledLines.map (· ++ "\n"))

def stub (v : Vocabulary) (namespaceName : String) (m : Method) : Stub where
  name := m.name
  comment := DocBlock.block (v.patch namespaceName) m
  params := ", ".intercalate m.renderedParameters

def names (l : Library) (stubs : List Stub) : Eval (List (String × Value)) := do
  return [("methods", ← Eval.newList (stubs.map Value.stub)), ("namespace", .plain l.namespaceName),
    ("module", .plain l.moduleName), ("instance", .plain l.instanceName)]

/-- The path of a template in a directory; it does not lead out of it. -/
def pathIn? (dir : Path) (name : String) : Option Path :=
  let parts := (Text.pieces (· == '/') name.toList).map String.ofList
  if parts.contains ".." then none
  else some { dir with names := dir.names ++ parts.filter fun p => p != "" && p != "." }

def textIn (w : World) (dir : Path) (name : String) : Except Utf8.Error (Option String) :=
  match pathIn? dir name with
  | none => .ok none
  | some p =>
    match w.tree.isFile w.place.here p, w.tree.readText w.place.here p with
    | .ok true, .ok text => .ok (some text)
    | .ok true, .error (.encoding e) => .error e
    | _, _ => .ok none

/-- The templates of a directory, and what the world gives to them besides. -/
def shelf (w : World) (dir : Path) : Shelf where
  text? := textIn w dir
  folder := dir.text
  levels := w.place.limits.templates
  chance := w.chance

/-- The directory of the template that comes with the program, which holds no other. -/
def bundledShelf : Shelf where
  text? := fun n => .ok (if n == bundledName then some bundledText else none)
  folder := "templates"
  levels := 0
  chance := fun _ => 0

/-- Where the template is: its name for messages, the templates beside it, and its text. -/
def template (path : Option Path) : Run (String × Shelf × String) := do
  match path with
  | none => return (bundledName, bundledShelf, bundledText)
  | some p =>
    let beside := shelf (← get) p.parent
    match beside.text? p.name with
    | .error e => throw (.encoding e)
    | .ok none => throw (.templateMissing p.text)
    | .ok (some text) => return (p.name, beside, text)

/-- The failure that a fault of a template ends a run with, if `report` is what is said of it. -/
def failure (report : String → Failure) : Fault → Failure
  | .template m | .absent m | .notFound m => report m
  | .misuse m text => .misuse m text
  | .encoding e => .encoding e
  | .unfollowed => .unfollowed

/-- The generated module's text. -/
def render (path : Option Path) (v : Vocabulary) (l : Library) (methods : List Method) :
    Run String := do
  let stubs := methods.map (stub v l.namespaceName)
  let (file, beside, text) ← template path
  match Template.fill beside file text stubs.length (names l stubs) with
  | .error (.reading f) =>
    throw (failure (.templateInvalid ((path.map Path.text).getD file)) f)
  | .error (.filling f) => throw (failure (.rendering file) f)
  | .ok text =>
    Run.report (Log.debug "renderer" s!"Rendered {stubs.length} methods with {file}")
    return text

end Rendering
end SchemaWrappers
