import SchemaWrappers.Method
import SchemaWrappers.Log.Record
import SchemaWrappers.Text.Character
import SchemaWrappers.Text.Word

/-! The type names that belong to the wrapped library's own namespace. -/
namespace SchemaWrappers
open Text

/-- An ordered set of type names. -/
structure Vocabulary where
  tokens : List String := []
  deriving DecidableEq, Repr

namespace Vocabulary

/-- The names that every library of this kind exports. -/
def base : List String :=
  ["Static", "TSchema", "TMappedResult", "TEnumKey", "TEnumValue", "TTemplateLiteral",
    "TMappedKey", "TLiteralValue", "TMappedFunction", "TMapped", "TProperties",
    "TIndexPropertyKeys", "TTemplateLiteralKind"]

/-- The given names as they are, untrimmed, each once. -/
def ofTokens (tokens : List String) : Vocabulary := ⟨distinct tokens⟩

def contains (v : Vocabulary) (token : String) : Bool := v.tokens.contains token

/-- Takes in the trimmed token unless it is empty or known; the flag tells whether it was new. -/
def add (v : Vocabulary) (token : String) : Vocabulary × Bool :=
  let token := trim token
  if token.isEmpty || v.contains token then (v, false) else (⟨v.tokens ++ [token]⟩, true)

def addNew (v : Vocabulary) : List String → Vocabulary × List String
  | [] => (v, [])
  | t :: ts =>
    let (v, new) := v.add t
    let (v, added) := v.addNew ts
    (v, if new then t :: added else added)

def addAll (v : Vocabulary) (tokens : List String) : Vocabulary × Nat :=
  let (v, added) := v.addNew tokens
  (v, added.length)

def seeded (seed : List String) : Vocabulary := (addAll {} seed).1

/-- The library names its type of a method by this letter and the method's name. -/
def constructorOf (method : String) : String := "T" ++ method

def addConstructors (v : Vocabulary) (methods : List String) : Vocabulary × List String :=
  v.addNew (methods.map constructorOf)

/-- The ending that marks an options interface, with the space that must follow it. -/
def optionsEnding : List Char := "Options ".toList

/-- Reads from the head the longest word of at least one character that `Options ` follows inside
the text; answers the characters read and the rest. -/
def optionsAt : List Char → Option (List Char × List Char)
  | [] => none
  | c :: cs =>
    if isWord c then
      match optionsAt cs with
      | some (read, rest) => some (c :: read, rest)
      | none =>
        if optionsEnding.isPrefixOf cs then
          some (c :: optionsEnding, cs.drop optionsEnding.length)
        else none
    else none

theorem optionsAt_length {cs read rest : List Char} (h : optionsAt cs = some (read, rest)) :
    rest.length < cs.length := by
  induction cs generalizing read rest with
  | nil => simp [optionsAt] at h
  | cons c cs ih =>
    simp only [optionsAt] at h
    split at h
    · split at h
      · rename_i r s hr
        simp only [Option.some.injEq, Prod.mk.injEq] at h
        have := ih hr
        simp only [← h.2, List.length_cons]
        omega
      · split at h
        · simp only [Option.some.injEq, Prod.mk.injEq] at h
          simp only [← h.2, List.length_drop, List.length_cons]
          omega
        · simp at h
    · simp at h

/-- All options words of a text, left to right and without overlap. -/
def optionsWords (cs : List Char) : List (List Char) :=
  match h : optionsAt cs with
  | some (read, rest) =>
    have := optionsAt_length h
    trimmed read :: optionsWords rest
  | none =>
    match cs with
    | [] => []
    | _ :: cs => optionsWords cs
termination_by cs.length

def addOptions (v : Vocabulary) (text : String) : Vocabulary × List String :=
  v.addNew (distinct ((optionsWords text.toList).map String.ofList))

def optionsReport (added : List String) : List Log.Record :=
  if added.isEmpty then [Log.debug "registry" "No new Options types found in source text"] else []

end Vocabulary
end SchemaWrappers
