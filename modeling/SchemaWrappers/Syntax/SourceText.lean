/-! A text by the places between its characters, and what can begin at a place. -/
namespace SchemaWrappers.Syntax

/-- The characters of a text, with the bytes and the line breaks before each place. -/
structure SourceText where
  chars : Array Char
  offsets : Array Nat
  rows : Array Nat

namespace SourceText

def ofList (cs : List Char) : SourceText :=
  let (offsets, rows, offset, row) := cs.foldl (fun (offsets, rows, offset, row) c =>
    (offsets.push offset, rows.push row, offset + c.utf8Size,
      if c == '\n' then row + 1 else row)) ((#[] : Array Nat), (#[] : Array Nat), 0, 0)
  ⟨cs.toArray, offsets.push offset, rows.push row⟩

variable (t : SourceText)

def size : Nat := t.chars.size

/-- The character behind a place; the end of the text counts as a null character. -/
def at_ (i : Nat) : Char := t.chars.getD i '\x00'

def offset (i : Nat) : Nat := t.offsets.getD i 0

def row (i : Nat) : Nat := t.rows.getD i 0

/-- The place behind all characters from `i` on that fulfil a condition. -/
def skip (p : Char → Bool) (i : Nat) : Nat :=
  if h : i < t.chars.size then if p t.chars[i] then skip p (i + 1) else i else i
termination_by t.chars.size - i

/-- Whether some characters stand at a place. -/
def has (i : Nat) : List Char → Bool
  | [] => true
  | c :: cs => i < t.size && t.at_ i == c && has (i + 1) cs

/-- The text between two places. -/
def between (i j : Nat) : String := String.ofList (t.chars.extract i j).toList

end SourceText

/-- Space between tokens, line breaks included. -/
def isGap (c : Char) : Bool :=
  let n := c.toNat
  (0x09 ≤ n && n ≤ 0x0d) || n == 0x20 || n == 0xa0 || n == 0x1680 || (0x2000 ≤ n && n ≤ 0x200b) ||
    n == 0x2028 || n == 0x2029 || n == 0x202f || n == 0x205f || n == 0x2060 || n == 0x3000 ||
    n == 0xfeff

def isSpace (c : Char) : Bool :=
  let n := c.toNat
  (0x09 ≤ n && n ≤ 0x0d) || n == 0x20 || n == 0x1680 || (0x2000 ≤ n && n ≤ 0x2006) ||
    (0x2008 ≤ n && n ≤ 0x200a) || n == 0x2028 || n == 0x2029 || n == 0x205f || n == 0x3000

def isLineBreak (c : Char) : Bool := c == '\n' || c == '\r' || c == '\u2028' || c == '\u2029'

def isHexDigit (c : Char) : Bool :=
  c.isDigit || ('a' ≤ c && c ≤ 'f') || ('A' ≤ c && c ≤ 'F')

def isOctalDigit (c : Char) : Bool := '0' ≤ c && c ≤ '7'

def marks : List Char := ":;`\"'@#.,|^&<=>+-*/\\%?!~()[]\x7b\x7d".toList

def isNameRest (c : Char) : Bool := 0x20 < c.toNat && !isGap c && !marks.contains c

def isNameStart (c : Char) : Bool := isNameRest c && !c.isDigit

namespace SourceText

variable (t : SourceText)

def escapedInName (i : Nat) : Nat × Bool :=
  if t.at_ (i + 1) != 'u' then (i + 1, false)
  else if t.at_ (i + 2) == '\x7b' then
    let j := t.skip isHexDigit (i + 3)
    if t.at_ j == '\x7d' && i + 3 < j then (j + 1, true) else (j, false)
  else
    let j := min (t.skip isHexDigit (i + 2)) (i + 6)
    (j, j == i + 6)

private def nameRest : Nat → Nat → Nat
  | 0, i => i
  | fuel + 1, i =>
    if i < t.size && isNameRest (t.at_ i) then nameRest fuel (i + 1)
    else if t.at_ i == '\\' then
      match t.escapedInName i with
      | (j, true) => nameRest fuel j
      | (_, false) => i
    else i

def name (i : Nat) : Option Nat :=
  if i < t.size && isNameStart (t.at_ i) then some (t.nameRest t.size (i + 1))
  else if t.at_ i == '\\' then
    match t.escapedInName i with
    | (j, true) => some (t.nameRest t.size j)
    | (_, false) => none
  else none

/-- The place behind digits, between which single low lines may stand. -/
private def digitsFrom (p : Char → Bool) : Nat → Nat → Nat
  | 0, i => i
  | fuel + 1, i =>
    if p (t.at_ i) then digitsFrom p fuel (i + 1)
    else if t.at_ i == '_' && p (t.at_ (i + 1)) then digitsFrom p fuel (i + 2)
    else i

def digits (p : Char → Bool) (i : Nat) : Option Nat :=
  if p (t.at_ i) then some (t.digitsFrom p t.size (i + 1)) else none

private def exponent (i : Nat) : Option Nat :=
  if t.at_ i == 'e' || t.at_ i == 'E' then
    let signed := t.at_ (i + 1) == '-' || t.at_ (i + 1) == '+'
    t.digits (·.isDigit) (if signed then i + 2 else i + 1)
  else none

/-- The places behind a whole number that a fraction or an exponent may follow. -/
private def wholes (i : Nat) : List Nat :=
  let zero := t.at_ i == '0'
  let rest (i : Nat) : List Nat :=
    if '1' ≤ t.at_ i && t.at_ i ≤ '9' then
      let next := if t.at_ (i + 1) == '_' then i + 2 else i + 1
      (i + 1) :: (t.digits (·.isDigit) next).toList
    else []
  (if zero then [i + 1] else []) ++ rest i ++ if zero then rest (i + 1) else []

private def withRadix (small large : Char) (p : Char → Bool) (i : Nat) : Option Nat :=
  if t.at_ i == '0' && (t.at_ (i + 1) == small || t.at_ (i + 1) == large) then
    t.digits p (i + 2)
  else none

def number (i : Nat) : Option Nat :=
  let big (j : Nat) : Nat := if t.at_ j == 'n' then j + 1 else j
  let plain := [t.digits (·.isDigit) i, t.withRadix 'x' 'X' isHexDigit i,
    t.withRadix 'o' 'O' isOctalDigit i, t.withRadix 'b' 'B' (fun c => c == '0' || c == '1') i]
  let withExponent (j : Nat) : List Nat := j :: (t.exponent j).toList
  let fraction (j : Nat) : List Nat :=
    if t.at_ j == '.' then
      withExponent (j + 1) ++ ((t.digits (·.isDigit) (j + 1)).toList.flatMap withExponent)
    else []
  let bare := if t.at_ i == '.' then (t.digits (·.isDigit) (i + 1)).toList.flatMap withExponent
    else []
  let whole := (t.wholes i).flatMap fun j => fraction j ++ (t.exponent j).toList
  (plain.reduceOption.map big ++ bare ++ whole).max?

/-- The place behind the first `*/`. -/
private def blockEnd : Nat → Nat → Option Nat
  | 0, _ => none
  | fuel + 1, i =>
    if t.size ≤ i then none
    else if t.at_ i == '*' && t.at_ (i + 1) == '/' then some (i + 2)
    else blockEnd fuel (i + 1)

def comment (i : Nat) : Option Nat :=
  if t.at_ i != '/' then none
  else if t.at_ (i + 1) == '/' then some (t.skip (!isLineBreak ·) (i + 2))
  else if t.at_ (i + 1) == '*' then t.blockEnd (t.size + 1) (i + 2)
  else none

/-- The place behind an escaped character of a quoted text. -/
def escape (i : Nat) : Option Nat :=
  if t.at_ i != '\\' || t.size ≤ i + 1 then none
  else
    let hex (n k : Nat) : Option Nat :=
      if (List.range n).all fun d => isHexDigit (t.at_ (k + d)) then some (k + n) else none
    match t.at_ (i + 1) with
    | 'u' =>
      if t.at_ (i + 2) == '\x7b' then
        let j := t.skip isHexDigit (i + 3)
        if t.at_ j == '\x7d' && i + 3 < j then some (j + 1) else none
      else hex 4 (i + 2)
    | 'x' => hex 2 (i + 2)
    | c =>
      if isOctalDigit c then some (min (t.skip isOctalDigit (i + 1)) (i + 4))
      else if (c == '\r' || c == '?') && ['\n', '\u2028', '\u2029'].contains (t.at_ (i + 2)) then
        some (i + 3)
      else some (i + 2)

/-- The place behind a pattern's characters up to a slash outside of brackets. -/
private def patternFrom (inBrackets : Bool) : Nat → Nat → Nat → Nat
  | 0, _, last => last
  | fuel + 1, i, last =>
    if t.size ≤ i then last
    else
      let c := t.at_ i
      if c == '\n' then last
      else if c == '\\' then
        if t.size ≤ i + 1 || t.at_ (i + 1) == '\n' then last
        else patternFrom inBrackets fuel (i + 2) (if inBrackets then last else i + 2)
      else if inBrackets then
        if c == ']' then patternFrom false fuel (i + 1) (i + 1)
        else patternFrom true fuel (i + 1) last
      else if c == '/' then last
      else if c == '[' then patternFrom true fuel (i + 1) last
      else patternFrom false fuel (i + 1) (i + 1)

/-- The place behind at least one character that fulfils a condition. -/
def some1 (p : Char → Bool) (i : Nat) : Option Nat :=
  let j := t.skip p i
  if i < j then some j else none

def pattern (i : Nat) : Option Nat :=
  let j := t.patternFrom false (t.size + 1) i i
  if i < j then some j else none

end SourceText
end SchemaWrappers.Syntax
