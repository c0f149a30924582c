import SchemaWrappers.Method
import SchemaWrappers.Source
import SchemaWrappers.Syntax.Read
import SchemaWrappers.World

/-! Loading declaration files: each is read once, in the order in which it is first named. -/
namespace SchemaWrappers.Program

def normalised (p : Path) : Run Path := do Run.resolve (← Run.expand p)

abbrev Reader := List Char → Syntax.Reading

def sourceOf (reader : Reader) (path text : String) : Except Failure Source :=
  let reading := reader text.toList
  if reading.faulty then
    .error (.source path s!"syntax error near line {reading.tree.faultLine}")
  else .ok { path, text, data := Utf8.encode text.toList, tree := reading.tree }

def readSource (reader : Reader) (path : Path) : Run Source := do
  match ← Run.readText path with
  | .error e => throw (.source path.text e.message)
  | .ok text =>
    match sourceOf reader path.text text with
    | .ok s => return s
    | .error e => throw e

def loadWith (reader : Reader) (roots : List Path) : Run Program := do
  let paths := distinct (← roots.mapM normalised)
  let sources ← paths.mapM (readSource reader)
  Run.report (Log.debug "loader" s!"Loaded {sources.length} declaration sources")
  return ⟨sources, paths.map (·.text)⟩

def lookUp (p : Program) (path : Path) : Run (Option Source) := do
  return p.source? (← normalised path).text

end SchemaWrappers.Program
