import SchemaWrappers.FileTree
import SchemaWrappers.Method
import SchemaWrappers.Script.Options
import SchemaWrappers.Template.Fault
import SchemaWrappers.Yaml.Error

namespace SchemaWrappers

inductive Failure where
  /-- The settings are not of the form they are written in. -/
  | settingsUnreadable (file reason : String)
  /-- The settings are not made up of named values. -/
  | settingsUnnamed (file : String)
  /-- A setting is not of the kind that it is said to be. -/
  | setting (e : Yaml.Error)
  | source (path reason : String)
  | templateMissing (path : String)
  | templateInvalid (path reason : String)
  /-- The template asks for what is not there. -/
  | rendering (template reason : String)
  | formatUnreadable (file reason : String)
  /-- The layout settings are not made up of named values. -/
  | formatUnnamed (file : String)
  | layout (path reason : String)
  /-- A layout setting has a name that is not free. -/
  | refused (r : Script.Refusal)
  | unwritable (path : String) (e : FileError)
  | access (e : FileError)
  | encoding (e : Utf8.Error)
  /-- A text is to be stored that holds half of a surrogate pair. -/
  | unencodable (codes : List Nat)
  /-- What is read is nested so deep that the stack has no room for it. -/
  | tooDeep (text : String)
  | method (e : MethodError)
  /-- A template does with a value what cannot be done with it. -/
  | misuse (m : Template.Misuse) (text : String)
  /-- A path holds a NUL character. -/
  | nul
  /-- A path starts at the home of a user that is not known. -/
  | homeless
  /-- How the run goes on is not told here. -/
  | unfollowed
  deriving DecidableEq, Repr

namespace Failure

def message : Failure → String
  | settingsUnreadable name reason => s!"Failed to parse {name}: {reason}"
  | settingsUnnamed name => s!"{name} must contain a mapping at the root"
  | setting e => e.message
  | source path reason => s!"Failed to load declaration source {path}: {reason}"
  | templateMissing path => s!"Template not found: {path}"
  | templateInvalid path reason => s!"Invalid template {path}: {reason}"
  | rendering template reason => s!"Failed to render {template}: {reason}"
  | formatUnreadable path reason => s!"Failed to read {path}: {reason}"
  | formatUnnamed path => s!"{path} must contain a JSON object"
  | layout path reason => s!"Failed to format {path}: {reason}"
  | refused r => r.message
  | unwritable path e => s!"Failed to write {path}: {e.message}"
  | access e => e.message
  | encoding e => e.message
  | unencodable codes => Utf8.unencodableMessage codes
  | tooDeep text => text
  | method e => e.message
  | misuse _ text => text
  | nul => "embedded null byte"
  | homeless => "Could not determine home directory."
  | unfollowed => "not followed"

/-- The failures that a run reports by itself; any other one breaks it off. -/
def isReported : Failure → Bool
  | setting _ | refused _ | access _ | encoding _ | unencodable _ | tooDeep _ | method _ | misuse ..
  | nul | homeless | unfollowed => false
  | _ => true

/-- Why a path cannot be put in full: a user whose name holds a NUL character cannot be looked up, any
other one is not known. -/
def ofHomeless (p : Path) : Failure :=
  if (p.names.headD "").toList.contains '\x00' then .nul else .homeless

def ofRead : ReadError → Failure
  | .file e => .access e
  | .encoding e => .encoding e

@[simp]
theorem isReported_ofHomeless (p : Path) : (ofHomeless p).isReported = false := by
  rw [ofHomeless]
  split
  · rfl
  · rfl

end Failure
end SchemaWrappers
