import SchemaWrappers.Path
import SchemaWrappers.Text.Quoted
import SchemaWrappers.Text.Utf8

/-! A tree of directories and files, looked up and changed by path. -/
namespace SchemaWrappers

inductive Entry where
  | directory
  | file (bytes : List UInt8)
  deriving DecidableEq, Repr

/-- The names that lead from the top to a place in the tree. -/
abbrev Location := List String

/-- Directories and files by their places. The top is always a directory. -/
structure FileTree where
  entries : List (Location × Entry) := []

/-- Why a file cannot be used. -/
inductive FileFault where
  | absent
  | notDirectory
  | isDirectory
  | nameTooLong
  deriving DecidableEq, Repr

namespace FileFault

def number : FileFault → Nat
  | absent => 2
  | notDirectory => 20
  | isDirectory => 21
  | nameTooLong => 36

def description : FileFault → String
  | absent => "No such file or directory"
  | notDirectory => "Not a directory"
  | isDirectory => "Is a directory"
  | nameTooLong => "File name too long"

end FileFault

/-- A fault and the path, as given, at which it occurred. -/
structure FileError where
  fault : FileFault
  path : String
  deriving DecidableEq, Repr

def FileError.message (e : FileError) : String :=
  s!"[Errno {e.fault.number}] {e.fault.description}: {Text.quote e.path}"

/-- Why a file cannot be read as text. -/
inductive ReadError where
  | file (e : FileError)
  | encoding (e : Utf8.Error)
  deriving DecidableEq, Repr

def ReadError.message : ReadError → String
  | file e => e.message
  | encoding e => e.message

namespace FileTree

def get? (t : FileTree) (place : Location) : Option Entry :=
  if place.isEmpty then some .directory else t.entries.lookup place

def put (t : FileTree) (place : Location) (e : Entry) : FileTree :=
  ⟨(place, e) :: t.entries.filter (·.1 != place)⟩

/-- A name takes at most so many bytes, and a path fewer than so many. -/
def longestName : Nat := 255
def longestPath : Nat := 4096

/-- Follows names from a place. Every place on the way must be a directory; the last one may be
absent. -/
def walk (t : FileTree) (place : Location) : List String → Except FileFault Location
  | [] => .ok place
  | n :: rest =>
    match t.get? place with
    | none => .error .absent
    | some (.file _) => .error .notDirectory
    | some .directory =>
      if n == ".." then t.walk place.dropLast rest
      else if longestName < n.utf8ByteSize then .error .nameTooLong
      else t.walk (place ++ [n]) rest

def find (t : FileTree) (here p : Path) : Except FileFault (Location × Option Entry) := do
  if longestPath ≤ p.text.utf8ByteSize then throw .nameTooLong
  let place ← t.walk (if p.isAbsolute then [] else here.names) p.names
  return (place, t.get? place)

def blame (p : Path) (x : Except FileFault α) : Except FileError α :=
  x.mapError fun fault => ⟨fault, p.text⟩

def read (t : FileTree) (here p : Path) : Except FileError (List UInt8) :=
  blame p do
    match (← t.find here p).2 with
    | none => throw .absent
    | some .directory => throw .isDirectory
    | some (.file bytes) => return bytes

/-- Every carriage return, with the line feed after it if there is one, becomes a line feed. -/
def unifyLines : List Char → List Char
  | '\r' :: '\n' :: cs => '\n' :: unifyLines cs
  | '\r' :: cs => '\n' :: unifyLines cs
  | c :: cs => c :: unifyLines cs
  | [] => []

/-- The text of a file, its line breaks made line feeds. -/
def readText (t : FileTree) (here p : Path) : Except ReadError String := do
  let bytes ← (t.read here p).mapError .file
  let cs ← (Utf8.decode bytes).mapError .encoding
  return String.ofList (unifyLines cs)

/-- The tree after `change` made new contents from those of a file; a file that is absent is made,
its directory is not. -/
def update (t : FileTree) (here p : Path) (change : List UInt8 → List UInt8) :
    Except FileError FileTree :=
  blame p do
    match ← t.find here p with
    | (place, none) => return t.put place (.file (change []))
    | (_, some .directory) => throw .isDirectory
    | (place, some (.file bytes)) => return t.put place (.file (change bytes))

def write (t : FileTree) (here p : Path) (bytes : List UInt8) : Except FileError FileTree :=
  t.update here p fun _ => bytes

def append (t : FileTree) (here p : Path) (bytes : List UInt8) : Except FileError FileTree :=
  t.update here p (· ++ bytes)

/-- What a path names. Nothing is there if the way to it is broken off; a name that is too long is
an error. -/
def look (t : FileTree) (here p : Path) : Except FileError (Option Entry) :=
  if p.hasNul then .ok none
  else
    match t.find here p with
    | .ok (_, e) => .ok e
    | .error .nameTooLong => .error ⟨.nameTooLong, p.text⟩
    | .error _ => .ok none

def isFile (t : FileTree) (here p : Path) : Except FileError Bool := do
  match ← t.look here p with
  | some (.file _) => return true
  | _ => return false

def isDirectory (t : FileTree) (here p : Path) : Except FileError Bool := do
  return (← t.look here p) == some .directory

end FileTree
end SchemaWrappers
