import SchemaWrappers.Script.Layout
import SchemaWrappers.World

/-! Laying out a finished module and writing it to its file. The settings of the layout come from
the nearest options file at or above the module's directory. -/
namespace SchemaWrappers.Output

def optionsName : String := ".jsbeautifyrc"

/-- The settings that hold where nothing else is set. -/
def defaults : List (String × Json) :=
  [("indent_size", .whole 2), ("end_with_newline", .bool true), ("preserve_newlines", .bool true),
    ("max_preserve_newlines", .whole 2)]

def firstFile (t : FileTree) (here : Path) : List Path → Except FileError (Option Path)
  | [] => .ok none
  | p :: ps => do
    if ← t.isFile here p then return some p else firstFile t here ps

def findOptions (start : Path) : Run (Option Path) := do
  let start ← Run.resolve (← Run.expand start)
  Run.ask (fun t here => firstFile t here (start.ancestors.map (·.child optionsName))) .access

def report (message : String) : Run Unit := Run.report (Log.debug "writer" message)

def optionsOf (room : Nat) (file : Path) (text : String) : Except Failure (List (String × Json)) :=
  match Json.parse room text with
  | .ok (.object fields) => .ok fields
  | .ok _ => .error (.formatUnnamed file.text)
  | .error e =>
    match e.fault with
    | .tooLong digits => .error (.setting (.tooLong digits))
    | .tooDeep _ => .error (.tooDeep e.fault.message)
    | _ => .error (.formatUnreadable file.text e.message)

def projectOptions (path : Path) : Run (List (String × Json)) := do
  match ← findOptions path.parent with
  | none => return []
  | some file =>
    let text ← match ← Run.readText file with
      | .ok text => pure text
      | .error (.file e) => throw (.formatUnreadable file.text e.message)
      | .error (.encoding e) => throw (.encoding e)
    match optionsOf (← Run.place).limits.json file text with
    | .ok fields =>
      report s!"Using formatting options from {file.text}"
      return fields
    | .error e => throw e

def settings (own : List (String × Json)) : List (String × Json) :=
  own.foldl (fun all f => Json.setField all f.1 f.2) defaults

/-- The text laid out with all settings, halves of surrogate pairs in them marked. -/
def laidOut (all : List (String × Json)) (content : String) (mark : Nat → Char) : Option String :=
  (Script.Options.ofAssigned mark all).bind (Script.Layout.format · content)

/-- The text laid out with the options of its project, if they can be used. It may be indented with
halves of surrogate pairs, which shows in that it matters how they are marked. -/
def layOut (path : Path) (content : String) (own : List (String × Json)) : Except Failure Text.Spelled :=
  match Script.Options.assigned (settings own) with
  | .error r => .error (.refused r)
  | .ok all =>
    match laidOut all content Text.Spelled.lowMark, laidOut all content Text.Spelled.highMark with
    | some low, some high => .ok (.ofMarked low high)
    | _, _ => .error (.layout path.text "the settings cannot be used")

/-- The module's text laid out, with the given settings or those of its project. -/
def format (options : Option (List (String × Json))) (content : String) (path : Path) :
    Run Text.Spelled := do
  let own ← match options with
    | some own => pure own
    | none => projectOptions path
  match layOut path content own with
  | .ok text => return text
  | .error e => throw e

/-- Puts a text in the stead of what a file held. A write is taken to store the whole text or to leave
the file as it is; that the file can be written to is seen before the text is encoded. -/
def store (path : Path) (text : Text.Spelled) : Run Path := do
  Run.guardNul path
  let w ← get
  match text with
  | .text s =>
    let bytes := Utf8.encode s.toList
    match w.tree.write w.place.here path bytes with
    | .ok tree => set { w with tree }
    | .error e => throw (.unwritable path.text e)
    report s!"Wrote {bytes.length} bytes to {path.text}"
    return path
  | .halved codes =>
    match w.tree.write w.place.here path [] with
    | .ok _ => throw (.unencodable codes)
    | .error e => throw (.unwritable path.text e)

/-- Lays out a module and puts it in the stead of what its file held. -/
def write (options : Option (List (String × Json))) (path : Path) (content : String) :
    Run Path := do
  store path (← format options content path)

end SchemaWrappers.Output
