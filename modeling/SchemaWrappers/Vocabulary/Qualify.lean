import SchemaWrappers.Vocabulary

/-! Qualification: the names of a vocabulary, where a type expression uses them as whole
identifiers, are written as members of a namespace. -/
namespace SchemaWrappers
open Text

/-- The two characters before a place in a text, the nearer one first. -/
structure Before where
  last : Option Char := none
  secondLast : Option Char := none
  deriving DecidableEq, Repr

namespace Before

def push (b : Before) (c : Char) : Before := ⟨some c, b.last⟩

/-- A name can begin here: not inside an identifier, and not after the single dot of a member
access. The dots of a spread are no member access. -/
def allowsName (b : Before) : Bool :=
  match b.last with
  | none => true
  | some c => !isNameChar c && (c != '.' || b.secondLast == some '.')

end Before

namespace Vocabulary

/-- The tokens with the longer ones first, in which order they are tried. -/
def longestFirst (v : Vocabulary) : List (List Char) :=
  (v.tokens.map String.toList).mergeSort fun a b => b.length ≤ a.length

/-- The token stands at the head of the text and no identifier goes on behind it. -/
def tokenAt (cs token : List Char) : Bool :=
  token.isPrefixOf cs && !(cs.drop token.length).head?.any isNameChar

/-- The token that is found at a place with `before` behind it: the first that stands there. -/
def found? (tokens : List (List Char)) (before : Before) (cs : List Char) : Option (List Char) :=
  if before.allowsName then tokens.find? (tokenAt cs) else none

/-- The namespace's member of this name. -/
def qualified (ns token : List Char) : List Char := ns ++ '.' :: token

def replacement (tokens : List (List Char)) (ns found : List Char) : List Char :=
  if tokens.contains found then qualified ns found else found

/-- Qualifies from a place with `before` behind it. An empty token counts at every place where a
name could begin and no longer token does. -/
def qualifyFrom (tokens : List (List Char)) (ns : List Char) (before : Before) (cs : List Char) :
    List Char :=
  match found? tokens before cs, cs with
  | some [], [] => replacement tokens ns []
  | none, [] => []
  | some (t :: token), _ :: cs =>
    replacement tokens ns (t :: token) ++
      qualifyFrom tokens ns ((t :: token).foldl Before.push before) (cs.drop token.length)
  | some (t :: token), [] => replacement tokens ns (t :: token)
  | some [], c :: cs => replacement tokens ns [] ++ c :: qualifyFrom tokens ns (before.push c) cs
  | none, c :: cs => c :: qualifyFrom tokens ns (before.push c) cs
termination_by cs.length
decreasing_by all_goals (simp only [List.length_cons, List.length_drop]; omega)

/-- The type expression with its library names qualified, trimmed. -/
def patch (v : Vocabulary) (ns value : String) : String :=
  String.ofList (trimmed (qualifyFrom v.longestFirst ns.toList {} value.toList))

end Vocabulary
end SchemaWrappers
