import SchemaWrappers.Text.Character

namespace SchemaWrappers.Text

/-- What stands before the first occurrence of a part, and what stands behind it. -/
def cutAt? (part : List Char) : List Char → Option (List Char × List Char)
  | [] => if part.isEmpty then some ([], []) else none
  | c :: cs =>
    if part.isPrefixOf (c :: cs) then some ([], (c :: cs).drop part.length)
    else (cutAt? part cs).map fun (front, back) => (c :: front, back)

/-- What stands before the last occurrence of a part, and what stands behind it. -/
def cutAtLast? (part cs : List Char) : Option (List Char × List Char) :=
  (cutAt? part.reverse cs.reverse).map fun (back, front) => (front.reverse, back.reverse)

def isInfix (part cs : List Char) : Bool := (cutAt? part cs).isSome

def piecesAt (part : List Char) : Nat → List Char → List (List Char)
  | 0, cs => [cs]
  | n + 1, cs =>
    match cutAt? part cs with
    | some (front, back) => front :: piecesAt part n back
    | none => [cs]

def piecesAtLast (part : List Char) (n : Nat) (cs : List Char) : List (List Char) :=
  ((piecesAt part.reverse n cs.reverse).map List.reverse).reverse

/-- Puts a text before each of so many characters and, if the number goes so far, behind the last
one. -/
def interspersed (new : List Char) : Nat → List Char → List Char
  | 0, cs => cs
  | _ + 1, [] => new
  | n + 1, c :: cs => new ++ c :: interspersed new n cs

/-- A text with so many occurrences of a part replaced, at most. -/
def replaced (old new : List Char) (n : Nat) (cs : List Char) : List Char :=
  if old.isEmpty then interspersed new (min n (cs.length + 1)) cs
  else new.intercalate (piecesAt old n cs)

def occurrences (part cs : List Char) : Nat :=
  if part.isEmpty then cs.length + 1 else (piecesAt part cs.length cs).length - 1

/-- Words between blanks, cut so often at most; what is left is the last piece. -/
def wordsAtMost : Nat → Nat → List Char → List (List Char)
  | 0, _, _ => []
  | fuel + 1, n, cs =>
    let cs := cs.dropWhile isBlank
    if cs.isEmpty then []
    else
      match n with
      | 0 => [cs]
      | n + 1 =>
        cs.takeWhile (!isBlank ·) :: wordsAtMost fuel n (cs.dropWhile (!isBlank ·))

def wordsAtMostLast (n : Nat) (cs : List Char) : List (List Char) :=
  ((wordsAtMost (cs.length + 1) n cs.reverse).map List.reverse).reverse

def endsLine (c : Char) : Bool :=
  ['\n', '\r', '\x0b', '\x0c', '\x1c', '\x1d', '\x1e', '\x85', '\u2028', '\u2029'].contains c

def linesOf (keep : Bool) (line : List Char) : List Char → List (List Char)
  | [] => if line.isEmpty then [] else [line.reverse]
  | '\r' :: '\n' :: cs =>
    (if keep then ('\n' :: '\r' :: line).reverse else line.reverse) :: linesOf keep [] cs
  | c :: cs =>
    if endsLine c then (if keep then (c :: line).reverse else line.reverse) :: linesOf keep [] cs
    else linesOf keep (c :: line) cs

def lines (cs : List Char) : List (List Char) := linesOf false [] cs

/-- Blanks or another character on both sides up to a width; of an odd number of them the one more
stands before if the width is odd. -/
def centered (fill : Char) (width : Nat) (cs : List Char) : List Char :=
  let pad := width - cs.length
  let left := pad / 2 + (if pad % 2 == 1 && width % 2 == 1 then 1 else 0)
  List.replicate left fill ++ cs ++ List.replicate (pad - left) fill

end SchemaWrappers.Text
