import SchemaWrappers.Syntax.SourceText

/-! Tokens that are told by what stands around them: the end of a statement that no mark ends, the
question mark of a choice, the text of a template, and comments in the manner of web pages. -/
namespace SchemaWrappers.Syntax

def endsLine (c : Char) : Bool :=
  c == '\x00' || c == '\n' || c == '\u2028' || c == '\u2029'

/-- A token between two places. -/
structure Span where
  start : Nat
  stop : Nat

/-- Whether a statement may end where the search began, how far it looked, and whether it came by a
comment. -/
structure Ending where
  ends : Bool
  place : Nat
  sawComment : Bool := false

namespace SourceText
variable (t : SourceText)

def skipSpace (i : Nat) : Nat := t.skip isSpace i

/-- The place behind the first `*/`, or where the text ends without one. -/
private def commentEnd : Nat → Nat → Bool × Nat
  | 0, i => (false, i)
  | fuel + 1, i =>
    if t.at_ i == '\x00' then (false, i)
    else if t.at_ i == '*' && t.at_ (i + 1) == '/' then (true, i + 2)
    else commentEnd fuel (i + 1)

/-- Skips space and comments. Tells whether there was a comment; there is no place if a slash begins
something else. -/
private def skipComments : Nat → Bool → Nat → Option Nat × Bool × Nat
  | 0, saw, i => (some i, saw, i)
  | fuel + 1, saw, i =>
    let i := t.skipSpace i
    if t.at_ i != '/' then (some i, saw, i)
    else if t.at_ (i + 1) == '/' then skipComments fuel true (t.skip (!endsLine ·) (i + 2))
    else if t.at_ (i + 1) == '*' then
      let (closed, j) := t.commentEnd t.size (i + 2)
      skipComments fuel (saw || closed) j
    else (none, saw, i + 1)

/-- Whether a word goes on. -/
private def isLetter (c : Char) : Bool := c.isAlpha || 128 ≤ c.toNat

/-- Looks for a word that goes on from the line before, the letter `i` being there. -/
private def joinsLines (i : Nat) : Ending :=
  if t.at_ (i + 1) != 'n' then ⟨true, i + 1, false⟩
  else if !isLetter (t.at_ (i + 2)) then ⟨false, i + 2, false⟩
  else
    let rest := "stanceof".toList
    let same := ((rest.zipIdx).takeWhile fun (c, k) => t.at_ (i + 2 + k) == c).length
    let j := i + 2 + same
    ⟨same != rest.length || isLetter (t.at_ j), j, false⟩

/-- Whether a statement may end before the next line, given that this one does. -/
private def endsAtBreak (operators signature : Bool) (i : Nat) : Ending :=
  match t.at_ i with
  | '\x7b' => ⟨!signature, i, false⟩
  | '(' | '[' => ⟨!operators, i, false⟩
  | '+' => ⟨t.at_ (i + 1) == '+', i + 1, false⟩
  | '-' => ⟨t.at_ (i + 1) == '-', i + 1, false⟩
  | '!' => ⟨t.at_ (i + 1) != '=', i + 1, false⟩
  | 'i' => t.joinsLines i
  | c => ⟨!(['\x60', ',', '.', ';', '*', '%', '>', '<', '=', '?', '^', '|', '&', '/', ':'].contains c),
      i, false⟩

/-- Whether a statement may end at a place: before the end of the text, before a closing brace, and
at the end of a line unless the next one goes on with it. `operators` tells whether an operator could
stand there, `signature` whether a function's body could. -/
def statementEnd (operators signature : Bool) (i : Nat) : Ending :=
  let i := t.skip (fun c => isSpace c && c != '\n') i
  match t.at_ i with
  | '\x00' => ⟨true, i, false⟩
  | '\x7d' =>
    let i := t.skipSpace (i + 1)
    ⟨t.at_ i != ':' || operators, i, false⟩
  | '\n' =>
    match t.skipComments (t.size + 1) false (i + 1) with
    | (some i, saw, _) => { t.endsAtBreak operators signature i with sawComment := saw }
    | (none, saw, i) => ⟨false, i, saw⟩
  | _ => ⟨false, i, false⟩

def questionMark (i : Nat) : Option Span :=
  let start := t.skipSpace i
  if t.at_ start != '?' || t.at_ (start + 1) == '?' then none
  else
    let next := t.skipSpace (start + 1)
    match t.at_ next with
    | ':' | ')' | ',' => none
    | '.' => if (t.at_ (next + 1)).isDigit then some ⟨start, start + 1⟩ else none
    | _ => some ⟨start, start + 1⟩

private def templateEnd : Nat → Nat → Option Nat
  | 0, _ => none
  | fuel + 1, i =>
    match t.at_ i with
    | '\x60' | '\\' => some i
    | '\x00' => none
    | '$' => if t.at_ (i + 1) == '\x7b' then some i else templateEnd fuel (i + 1)
    | _ => templateEnd fuel (i + 1)

def templateText (i : Nat) : Option Span := do
  let j ← t.templateEnd (t.size + 1) i
  guard (i < j)
  return ⟨i, j⟩

/-- A comment as web pages have them, to the end of its line. -/
def pageComment (i : Nat) : Option Span :=
  let start := t.skipSpace i
  let length := if t.has start "<!--".toList then 4 else if t.has start "-->".toList then 3 else 0
  if length == 0 then none else some ⟨start, t.skip (!endsLine ·) (start + length)⟩

end SourceText
end SchemaWrappers.Syntax
