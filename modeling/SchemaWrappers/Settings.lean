import SchemaWrappers.Setting
import SchemaWrappers.World

/-! The settings of a project: where its declaration files are, which classes are taken from them,
and what is written where. -/
namespace SchemaWrappers

/-- The template is the one that comes with the program unless a file is set. -/
structure Settings where
  root : Path
  libraryDir : Path
  rootFiles : List Path
  output : Path
  builders : List String
  template : Option Path
  namespaceName : String
  moduleName : String
  instanceName : String
  internalTypes : List String
  deriving DecidableEq, Repr

namespace Settings

def fileName : String := ".buildergen.yml"

def defaultLibraryDir : String := "node_modules/@sinclair/typebox/build/import/type/type"
def defaultRootFiles : List String := ["json.d.mts", "javascript.d.mts"]
def defaultBuilders : List String := ["JavaScriptTypeBuilder", "JsonTypeBuilder"]
def defaultOutput : String := "lib/builder.js"
def defaultNamespace : String := "typebox"
def defaultModule : String := "@sinclair/typebox"
def defaultInstance : String := "Type"

/-- The settings of a project in which nothing is set. -/
def defaults (root : Path) : Settings :=
  let libraryDir := root.child defaultLibraryDir
  { root, libraryDir
    rootFiles := defaultRootFiles.map libraryDir.child
    output := root.child defaultOutput
    builders := defaultBuilders
    template := none
    namespaceName := defaultNamespace
    moduleName := defaultModule
    instanceName := defaultInstance
    internalTypes := [] }

def ofFields (root : Path) (field : String → Setting) : Except Yaml.Error Settings := do
  let libraryDir := root.child (← (field "library_dir").textOr defaultLibraryDir)
  let rootFiles ← (field "root_files").textsOr defaultRootFiles
  let builders ← (field "builders").textsOr defaultBuilders
  let template ← (field "template").textOr ""
  return {
    root, libraryDir, builders
    rootFiles := rootFiles.map libraryDir.child
    output := root.child (← (field "output").textOr defaultOutput)
    template := if template.isEmpty then none else some (root.child template)
    namespaceName := ← (field "namespace").textOr defaultNamespace
    moduleName := ← (field "module").textOr defaultModule
    instanceName := ← (field "instance").textOr defaultInstance
    internalTypes := ← (field "internal_types").texts }

/-- What is set where nothing is. -/
def unset (_ : String) : Setting := .unusable

/-- The settings that a document gives; of those with one name the last counts. -/
def fieldsOf (d : Yaml.Document) : Option (String → Setting) :=
  if d.tagOf d.root == .null then some unset
  else d.fields?.map fun fields name =>
    ((fields.reverse.lookup name).map (Setting.ofNode d)).getD .unusable

def fieldsOfText (room : Nat) (file text : String) : Except Failure (String → Setting) :=
  if (Text.trim text).isEmpty then .ok unset
  else
    match Yaml.read room text.toList with
    | .error .malformed => .error (.settingsUnreadable file Yaml.Error.malformed.message)
    | .error e => .error (.setting e)
    | .ok none => .ok unset
    | .ok (some d) =>
      match fieldsOf d with
      | some field => .ok field
      | none => .error (.settingsUnnamed fileName)

/-- The settings file that a path names, itself or by its directory. -/
def locate (path : Path) : Run Path := do
  let path ← Run.expand path
  if ← Run.ask (·.isDirectory · path) .access then Run.resolve (path.child fileName)
  else Run.resolve path

/-- The settings in the file that a path names; the defaults if there is none. -/
def load (path : Path) : Run Settings := do
  let file ← locate path
  let root := file.parent
  match ← Run.ask (·.look · file) .access with
  | none => return defaults root
  | some _ =>
    match ← Run.readText file with
    | .error e => throw (.ofRead e)
    | .ok text =>
      match fieldsOfText (← Run.place).limits.yaml file.name text with
      | .ok field => (ofFields root field).mapError Failure.setting
      | .error e => throw e

end Settings
end SchemaWrappers
