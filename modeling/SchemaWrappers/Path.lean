import SchemaWrappers.Text.Character

/-! File paths: where they start, the names along them, and how they are joined and made
absolute. -/
namespace SchemaWrappers

/-- Where a path starts: at the working directory, at the top, or at the top written with two
slashes. -/
inductive Anchor where
  | here
  | top
  | doubleTop
  deriving DecidableEq, Repr

/-- A path; its names are not empty and none is a single dot. -/
structure Path where
  anchor : Anchor
  names : List String
  deriving DecidableEq, Repr

/-- How much nesting the stack of a process has room for: lists and objects of JSON, collections of YAML,
each of which counts twice, and whatever templates nest beyond what they always may. -/
structure Limits where
  json : Nat := 970
  yaml : Nat := 960
  templates : Nat := 916

/-- Where a process runs: its working directory, its home directory and those of users by their names,
and the limits of its stack. -/
structure Place where
  here : Path
  home : Path
  users : List (String × Path) := []
  limits : Limits := {}

/-- The home directory that a name with `~` in front stands for. -/
def Place.homeOf? (p : Place) (n : String) : Option Path :=
  if n == "~" then some p.home else p.users.lookup (String.ofList (n.toList.drop 1))

namespace Path

def anchorOf : List Char → Anchor
  | '/' :: '/' :: '/' :: _ => .top
  | '/' :: '/' :: _ => .doubleTop
  | '/' :: _ => .top
  | _ => .here

/-- Empty names and single dots do not count. -/
def ofText (s : String) : Path where
  anchor := anchorOf s.toList
  names := ((Text.pieces (· == '/') s.toList).map String.ofList).filter fun n => n != "" && n != "."

def anchorText : Anchor → String
  | .here => ""
  | .top => "/"
  | .doubleTop => "//"

def text (p : Path) : String :=
  match p.anchor, p.names with
  | .here, [] => "."
  | a, names => anchorText a ++ "/".intercalate names

def isAbsolute (p : Path) : Bool := p.anchor != .here

def name (p : Path) : String := p.names.getLast?.getD ""

def parent (p : Path) : Path := { p with names := p.names.dropLast }

/-- A path seen from another one; an absolute path is seen as itself. -/
def join (p q : Path) : Path :=
  if q.isAbsolute then q else { p with names := p.names ++ q.names }

def child (p : Path) (s : String) : Path := p.join (ofText s)

/-- Follows the names one by one, each `..` going back one step but not above the top. -/
def follow (start : List String) (names : List String) : List String :=
  names.foldl (fun reached n => if n == ".." then reached.dropLast else reached ++ [n]) start

/-- The absolute path without `..` that a path names from `here`. -/
def resolve (p here : Path) : Path where
  anchor := .top
  names := follow (if p.isAbsolute then [] else here.names) p.names

/-- A path and the directories above it, the nearest first. -/
def ancestors (p : Path) : List Path :=
  (List.range (p.names.length + 1)).map fun n => { p with names := p.names.take (p.names.length - n) }

/-- The path with the home directory that it starts at put in full; nothing if that is the home of a
user who is not known. -/
def expand (p : Path) (place : Place) : Option Path :=
  match p.anchor, p.names with
  | .here, n :: rest =>
    if n.startsWith "~" then
      (place.homeOf? n).map fun home => { home with names := home.names ++ rest }
    else some p
  | _, _ => some p

/-- A path cannot be looked up if a NUL character stands in it. -/
def hasNul (p : Path) : Bool := p.names.any (·.toList.contains '\x00')

def below? (p base : Path) : Option Path :=
  if base.anchor == p.anchor && base.names.isPrefixOf p.names then
    some ⟨.here, p.names.drop base.names.length⟩
  else none

end Path
end SchemaWrappers
