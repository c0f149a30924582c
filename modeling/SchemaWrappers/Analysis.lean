import SchemaWrappers.Loading
import SchemaWrappers.MethodTable
import SchemaWrappers.Output
import SchemaWrappers.Rendering
import SchemaWrappers.Settings
import SchemaWrappers.Surface

/-! From settings to the generated module: what the declaration files hold, and the module made of
it. -/
namespace SchemaWrappers

/-- All that a module is made of. -/
structure Analysis where
  settings : Settings
  program : Program
  builders : List Builder
  vocabulary : Vocabulary
  methods : List Method

namespace Analysis

def builderWarning (s : Settings) (p : Program) : Log.Record :=
  let named := ", ".intercalate s.builders
  Log.warning "generator"
    s!"No builder classes named {named} found in {p.rootSources.length} root sources"

/-- Takes in the options words of sources one by one, and tells of each how many were new. -/
def addSources (v : Vocabulary) : List Source → Vocabulary × List Log.Record
  | [] => (v, [])
  | s :: ss =>
    let (v, added) := v.addOptions s.text
    let found := Log.debug "generator" s!"Found {added.length} Options types in {s.fileName}"
    let (v, more) := addSources v ss
    (v, Vocabulary.optionsReport added ++ found :: more)

/-- The type names of the library: the ones known anyway, those from the settings, the options words
of the sources, and the type constructors of the methods. -/
def vocabularyOf (s : Settings) (p : Program) (names : List String) :
    Vocabulary × List Log.Record :=
  let v := ((Vocabulary.seeded Vocabulary.base).addAll s.internalTypes).1
  let (v, records) := addSources v p.rootSources
  ((v.addConstructors names).1, records)

/-- Loads the files by a reader and collects the methods of the builder classes. -/
def ofSettingsWith (reader : Program.Reader) (s : Settings) : Run Analysis := do
  let program ← Program.loadWith reader s.rootFiles
  let builders := Surface.builders program s.builders
  if builders.isEmpty then Run.report (builderWarning s program)
  let overloads := Surface.overloads builders
  let (vocabulary, records) := vocabularyOf s program (methodNames overloads)
  Run.reportAll records
  match MethodTable.outcomes Text.fold overloads with
  | .ok outcomes =>
    Run.reportAll (outcomes.filterMap (·.warning?))
    return { settings := s, program, builders, vocabulary,
             methods := outcomes.filterMap (·.method?) }
  | .error e => throw (.method e)

def library (a : Analysis) : Library where
  namespaceName := a.settings.namespaceName
  moduleName := a.settings.moduleName
  instanceName := a.settings.instanceName

/-- The module's text before it is laid out. -/
def render (a : Analysis) : Run String :=
  Rendering.render a.settings.template a.vocabulary a.library a.methods

/-- Renders the module and writes it to a file, to the one in the settings if none is named. -/
def write (a : Analysis) (target : Option Path) : Run Path := do
  Output.write none (target.getD a.settings.output) (← a.render)

end Analysis
end SchemaWrappers
