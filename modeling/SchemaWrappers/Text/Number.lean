import SchemaWrappers.Decimal
import SchemaWrappers.Text.Character

/-! Numbers as free text tells them: blanks around the number, a sign, the digits of any script,
and single low lines that group the digits. -/
namespace SchemaWrappers.Text

/-- Whether a minus stands first, and what follows the sign. -/
def signed : List Char → Bool × List Char
  | '-' :: cs => (true, cs)
  | '+' :: cs => (false, cs)
  | cs => (false, cs)

/-- The characters without low lines, each of which has to stand between two digits. -/
def ungrouped? (isDigit : Char → Bool) : List Char → Option (List Char)
  | a :: '_' :: b :: cs =>
    if isDigit a && isDigit b then (ungrouped? isDigit (b :: cs)).map (a :: ·) else none
  | '_' :: _ => none
  | c :: cs => (ungrouped? isDigit cs).map (c :: ·)
  | [] => some []

/-- The value of a digit; letters follow the ten figures. -/
def digitIn? (base : Nat) (c : Char) : Option Nat :=
  let c := c.toLower
  let value :=
    if c.isDigit then some (c.toNat - '0'.toNat)
    else if 'a' ≤ c && c ≤ 'z' then some (c.toNat - 'a'.toNat + 10)
    else none
  value.filter (· < base)

def baseLetter : Nat → Option Char
  | 2 => some 'b'
  | 8 => some 'o'
  | 16 => some 'x'
  | _ => none

def withoutMark (base : Nat) : List Char → List Char
  | '0' :: c :: ds =>
    if some c.toLower == baseLetter base then (if ds.head? == some '_' then ds.drop 1 else ds)
    else '0' :: c :: ds
  | ds => ds

/-- Why a text tells no whole number. -/
inductive NumberFault where
  | malformed
  | tooLong (digits : Nat)
  deriving DecidableEq, Repr

/-- Whole numbers are neither read nor written with more digits than this. -/
def digitLimit : Nat := 4300

def freeBases : List Nat := [2, 4, 8, 16, 32]

/-- The digits at the head, those of a number that is followed by something else too. -/
def leadingDigits (base : Nat) (cs : List Char) : List Char :=
  (cs.takeWhile fun c => c == '_' || (digitIn? base c).isSome).filter (· != '_')

def fromDigits? (base : Nat) (cs : List Char) : Option Nat := do
  let ds ← ungrouped? (fun c => (digitIn? base c).isSome) cs
  guard (!ds.isEmpty && 2 ≤ base && base ≤ 36)
  ds.foldlM (fun n c => (digitIn? base c).map (n * base + ·)) 0

def whole (base : Nat) (cs : List Char) : Except NumberFault Int :=
  let (negative, cs) := signed ((trimmed cs).map plainDigit)
  let ds := withoutMark base cs
  let length := (leadingDigits base ds).length
  if !freeBases.contains base && digitLimit < length then .error (.tooLong length)
  else
    match fromDigits? base ds with
    | some n => .ok (if negative then -n else n)
    | none => .error .malformed

def wholeText? (n : Int) : Option String :=
  if n.natAbs < Nat.pow 10 digitLimit then some (toString n) else none

/-- What is said of a number that is too long to be read, or to be written if no length is given. -/
def tooLongMessage (digits : Option Nat) : String :=
  s!"Exceeds the limit ({digitLimit} digits) for integer string conversion" ++
    (digits.map fun n => s!": value has {n} digits").getD "" ++
    "; use sys.set_int_max_str_digits() to increase the limit"

/-- A number with a fraction and an exponent, where both may be missing. -/
def figures? (cs : List Char) : Option Float := do
  let front := cs.takeWhile (·.isDigit)
  let (fraction, rest) := match cs.dropWhile (·.isDigit) with
    | '.' :: more => (more.takeWhile Char.isDigit, more.dropWhile Char.isDigit)
    | rest => ([], rest)
  let ds := (front ++ fraction).dropWhile (· == '0')
  guard !(front.isEmpty && fraction.isEmpty)
  let power : Int ← match rest with
    | [] => pure 0
    | e :: more =>
      let (negative, ps) := signed more
      guard (e == 'e' && !ps.isEmpty && ps.all (·.isDigit))
      pure (if negative then -(natOf ps : Int) else natOf ps)
  return Decimal.nearest false (natOf ds) ds.length (power - fraction.length)

/-- A decimal number, an infinity, or what is no number. -/
def decimal? (cs : List Char) : Option Float := do
  let (negative, cs) := signed ((trimmed cs).map fun c => (plainDigit c).toLower)
  let x ←
    if cs == "inf".toList || cs == "infinity".toList then pure (1.0 / 0.0)
    else if cs == "nan".toList then pure (0.0 / 0.0)
    else (ungrouped? Char.isDigit cs).bind figures?
  return if negative then -x else x

end SchemaWrappers.Text
