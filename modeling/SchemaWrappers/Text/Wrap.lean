import SchemaWrappers.Text.Numeral
import SchemaWrappers.Text.Search

namespace SchemaWrappers.Text

/-- The blanks at which lines are broken. -/
def isGap (c : Char) : Bool := [' ', '\t', '\n', '\x0b', '\x0c', '\r'].contains c

def isBeside (c : Char) : Bool := isWord c || ['!', '"', '\'', '&', '.', ',', '?'].contains c

def isLetterOnly (c : Char) : Bool := isWord c && !isDecimalDigit c

def dashesBeforeWord (cs : List Char) : Bool :=
  let dashes := cs.takeWhile (· == '-')
  2 ≤ dashes.length && ((cs.drop dashes.length).head?.any isWord)

/-- Whether a word may be broken behind a hyphen, with what stands before it, nearest first, and what
stands behind it. -/
def breaksAtHyphen (before behind : List Char) : Bool :=
  let front := match before with
    | a :: b :: rest =>
      isLetterOnly a && (isLetterOnly b || b == '-' && rest.head?.any isLetterOnly)
    | _ => false
  let back := match behind with
    | a :: '-' :: b :: _ => isLetterOnly a && isLetterOnly b
    | a :: b :: _ => isLetterOnly a && isLetterOnly b
    | _ => false
  front && back

/-- The characters of one piece of a line, nearest first. Those of the line before the piece are
`before`, nearest first. -/
def pieceOf (hyphens : Bool) (before done : List Char) : List Char → List Char
  | [] => done
  | c :: cs =>
    if isGap c then done
    else if hyphens && !done.isEmpty && done.head?.any isBeside && dashesBeforeWord (c :: cs) then
      done
    else if hyphens && c == '-' && !done.isEmpty && breaksAtHyphen (done ++ before) cs then c :: done
    else pieceOf hyphens before (c :: done) cs

/-- Words, gaps, dashes between words, and parts of words with hyphens. -/
def piecesToWrap (hyphens : Bool) : Nat → List Char → List Char → List (List Char)
  | 0, _, _ | _, _, [] => []
  | fuel + 1, before, c :: cs =>
    let whole := c :: cs
    let gap := whole.takeWhile isGap
    let dashes := whole.takeWhile (· == '-')
    let piece :=
      if !gap.isEmpty then gap
      else if hyphens && before.head?.any isBeside && dashesBeforeWord whole then dashes
      else (pieceOf hyphens before [] whole).reverse
    piece :: piecesToWrap hyphens fuel (piece.reverse ++ before) (whole.drop piece.length)

def isBlankPiece (cs : List Char) : Bool := cs.all isBlank

/-- Where a word that is too long is cut when there is room for so many of its characters. -/
def cutLength (hyphens : Bool) (room : Nat) (word : List Char) : Nat :=
  match if hyphens && room < word.length then cutAtLast? ['-'] (word.take room) else none with
  | some (front, _) => if front.any (· != '-') then front.length + 1 else room
  | none => room

def fitting (width : Nat) : List (List Char) → List (List Char) × List (List Char)
  | [] => ([], [])
  | p :: ps =>
    if p.length ≤ width then
      let (line, rest) := fitting (width - p.length) ps
      (p :: line, rest)
    else ([], p :: ps)

/-- Lines of pieces; `first` tells whether none has been written yet. -/
def wrapPieces (width : Nat) (cutWords hyphens : Bool) :
    Nat → Bool → List (List Char) → List (List Char)
  | 0, _, _ | _, _, [] => []
  | fuel + 1, first, p :: ps =>
    let pieces := if !first && isBlankPiece p then ps else p :: ps
    let (line, rest) := fitting width pieces
    let used := line.flatten.length
    let (line, rest) := match rest with
      | [] => (line, [])
      | word :: more =>
        if word.length ≤ width then (line, rest)
        else if cutWords then
          let n := cutLength hyphens (width - used) word
          (line ++ [word.take n], word.drop n :: more)
        else if line.isEmpty then ([word], more)
        else (line, rest)
    let line := if line.getLast?.any isBlankPiece then line.dropLast else line
    if line.isEmpty then wrapPieces width cutWords hyphens fuel first rest
    else line.flatten :: wrapPieces width cutWords hyphens fuel false rest

/-- A line as lines that are not longer than `width`, if its words allow that. -/
def wrapped (width : Nat) (cutWords hyphens : Bool) (cs : List Char) : List (List Char) :=
  let pieces := piecesToWrap hyphens (cs.length + 1) [] cs
  wrapPieces width cutWords hyphens (2 * cs.length + 2) true pieces

end SchemaWrappers.Text
