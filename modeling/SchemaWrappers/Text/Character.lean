/-! Kinds of characters: ranges of code points, white space, and the decimal digits of every script;
trimming, and runs of blanks made single spaces. -/
namespace SchemaWrappers.Text

def inRanges (ranges : List (Nat × Nat)) (n : Nat) : Bool :=
  ranges.any fun r => r.1 ≤ n && n ≤ r.2

/-- White space: the ASCII blanks and separators U+001C to U+001F, the next-line character, and the
space, line and paragraph separators beyond ASCII. -/
def isBlank (c : Char) : Bool :=
  let n := c.toNat
  (0x09 ≤ n && n ≤ 0x0d) || (0x1c ≤ n && n ≤ 0x20) || n == 0x85 || n == 0xa0 || n == 0x1680 ||
    (0x2000 ≤ n && n ≤ 0x200a) || n == 0x2028 || n == 0x2029 || n == 0x202f || n == 0x205f ||
    n == 0x3000

/-- The characters without leading and trailing ones that satisfy `p`. -/
def trimBoth (p : Char → Bool) (cs : List Char) : List Char :=
  ((cs.dropWhile p).reverse.dropWhile p).reverse

/-- The characters without leading and trailing blanks. -/
def trimmed (cs : List Char) : List Char := trimBoth isBlank cs

def withoutLineEnd (cs : List Char) : List Char :=
  if cs.getLast? == some '\n' then cs.dropLast else cs

def trim (s : String) : String := String.ofList (trimmed s.toList)

/-- The stretches between the elements that satisfy `p`, empty ones included. -/
def pieces (p : α → Bool) : List α → List (List α)
  | [] => [[]]
  | a :: as =>
    if p a then [] :: pieces p as
    else
      match pieces p as with
      | [] => [[a]]
      | w :: ws => (a :: w) :: ws

def words (cs : List Char) : List (List Char) := (pieces isBlank cs).filter (· ≠ [])

def collapsed (cs : List Char) : List Char := [' '].intercalate (words cs)

def collapse (s : String) : String := String.ofList (collapsed s.toList)

/-- The zeros of the scripts beyond ASCII; the digits one to nine follow each of them. -/
def zeros : List Nat := [
  0x660, 0x6f0, 0x7c0, 0x966, 0x9e6, 0xa66, 0xae6, 0xb66, 0xbe6, 0xc66, 0xce6, 0xd66, 0xde6,
  0xe50, 0xed0, 0xf20, 0x1040, 0x1090, 0x17e0, 0x1810, 0x1946, 0x19d0, 0x1a80, 0x1a90, 0x1b50,
  0x1bb0, 0x1c40, 0x1c50, 0xa620, 0xa8d0, 0xa900, 0xa9d0, 0xa9f0, 0xaa50, 0xabf0, 0xff10,
  0x104a0, 0x10d30, 0x11066, 0x110f0, 0x11136, 0x111d0, 0x112f0, 0x11450, 0x114d0, 0x11650,
  0x116c0, 0x11730, 0x118e0, 0x11950, 0x11c50, 0x11d50, 0x11da0, 0x16a60, 0x16ac0, 0x16b50,
  0x1d7ce, 0x1d7d8, 0x1d7e2, 0x1d7ec, 0x1d7f6, 0x1e140, 0x1e2f0, 0x1e950, 0x1fbf0]

/-- The ASCII digit of the same value; every other character is left as it is. -/
def plainDigit (c : Char) : Char :=
  if c.toNat < 0x80 then c
  else
    match zeros.find? fun z => z ≤ c.toNat && c.toNat ≤ z + 9 with
    | some z => Char.ofNat ('0'.toNat + (c.toNat - z))
    | none => c

def isDecimalDigit (c : Char) : Bool := (plainDigit c).isDigit

/-- The number that ASCII digits write. -/
def natOf (ds : List Char) : Nat := ds.foldl (fun n c => n * 10 + (c.toNat - '0'.toNat)) 0

end SchemaWrappers.Text
