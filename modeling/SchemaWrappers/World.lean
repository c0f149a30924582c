import SchemaWrappers.Failure
import SchemaWrappers.Log.Sinks

/-! The surroundings of a run: the file tree, where paths start, and where records go. -/
namespace SchemaWrappers

/-- `stamp` is the time that records in files bear. `printed` is what was put out, `console` what was
said beside it. `records` are all that were made, whether they reached a sink or not, the latest
first. `chance` holds the lots that a template will draw. -/
structure World where
  place : Place
  tree : FileTree
  stamp : String := ""
  sinks : Option Log.Sinks := none
  printed : String := ""
  console : String := ""
  records : List Log.Record := []
  chance : Nat → Nat := fun _ => 0

/-- A part of a run. What it did to the world stays done if it fails. -/
abbrev Run := ExceptT Failure (StateM World)

namespace World

/-- The absolute path, with `..` taken back but the start kept as written. -/
def absolute (w : World) (p : Path) : Path where
  anchor := if p.anchor == .here then w.place.here.anchor else p.anchor
  names := Path.follow (if p.anchor == .here then w.place.here.names else []) p.names

def appendText (t : FileTree) (here p : Path) (s : String) : FileTree :=
  match t.append here p (Utf8.encode s.toList) with
  | .ok t => t
  | .error _ => t

def print (w : World) (s : String) : World := { w with printed := w.printed ++ s }

def complain (w : World) (s : String) : World := { w with console := w.console ++ s }

def record (w : World) (r : Log.Record) : World :=
  let w := { w with records := r :: w.records }
  match w.sinks with
  | none => w
  | some s =>
    let w := if s.onConsole r then w.complain r.consoleLine else w
    match s.file with
    | none => w
    | some p =>
      if s.inFile r then
        { w with tree := appendText w.tree w.place.here p (r.fileLine w.stamp) }
      else w

end World

namespace Run

def place : Run Place := return (← get).place

def report (r : Log.Record) : Run Unit := modify (·.record r)

def reportAll (rs : List Log.Record) : Run Unit := rs.forM report

def ask (f : FileTree → Path → Except ε α) (fail : ε → Failure) : Run α := do
  let w ← get
  match f w.tree w.place.here with
  | .ok a => return a
  | .error e => throw (fail e)

def guardNul (p : Path) : Run Unit := if p.hasNul then throw .nul else pure ()

def readText (p : Path) : Run (Except ReadError String) := do
  guardNul p
  let w ← get
  return w.tree.readText w.place.here p

/-- The path with the home directory that it starts at put in full. -/
def expand (p : Path) : Run Path := do
  match p.expand (← place) with
  | some q => return q
  | none => throw (.ofHomeless p)

def resolve (p : Path) : Run Path := do
  guardNul p
  return p.resolve (← place).here

/-- Sets the sinks up anew. The file is made if it is absent; if it cannot be opened, the console
alone stays. -/
def configureLog (verbose quiet : Bool) (file : Option Path) : Run Unit := do
  let sinks := Log.Sinks.ofFlags verbose quiet file.isSome
  modify fun w => { w with sinks := some sinks }
  match file with
  | none => pure ()
  | some p =>
    guardNul p
    let w ← get
    let p := w.absolute p
    match w.tree.append w.place.here p [] with
    | .ok tree => set { w with tree, sinks := some { sinks with file := some p } }
    | .error e => throw (.access e)

end Run
end SchemaWrappers
