import SchemaWrappers.Text.Casing
import SchemaWrappers.Text.Number
import SchemaWrappers.Text.Utf8
import SchemaWrappers.Yaml.Tag

namespace SchemaWrappers.Yaml

/-- A text may hold half of a surrogate pair. -/
inductive Scalar where
  | null
  | truth (b : Bool)
  | whole (n : Int)
  | decimal (x : Float)
  | text (s : String)
  | halved (codes : List Nat)
  | bytes (bs : List UInt8)
  | moment (m : Moment)

namespace Scalar

/-- A whole number in a base; blanks around it, a sign and the mark of the base may be there. -/
def readWhole (base : Nat) (cs : List Char) : Except Error Int :=
  match Text.whole base cs with
  | .ok n => .ok n
  | .error .malformed => .error (.notWhole base (String.ofList cs))
  | .error (.tooLong digits) => .error (.tooLong digits)

def sixties [Add α] [Mul α] [NatCast α] (parts : List α) : α :=
  (parts.reverse.foldl (fun (sum, base) d => (sum + d * ((base : Nat) : α), base * 60))
    (((0 : Nat) : α), 1)).1

def whole? (s : String) : Except Error Int := do
  let cs := s.toList.filter (· != '_')
  let rest := Tag.unsigned cs
  let n ← match rest with
    | ['0'] => pure 0
    | '0' :: 'b' :: ds => readWhole 2 ds
    | '0' :: 'x' :: ds => readWhole 16 ds
    | '0' :: _ => readWhole 8 rest
    | [] => throw .noDigits
    | _ =>
      if rest.contains ':' then
        pure (sixties (← (Text.pieces (· == ':') rest).mapM (readWhole 10)))
      else readWhole 10 rest
  return if cs.head? == some '-' then -n else n

/-- A decimal number; blanks around it and a sign may be there. -/
def readDecimal (cs : List Char) : Except Error Float :=
  match Text.decimal? cs with
  | some x => .ok x
  | none => .error (.notDecimal (String.ofList cs))

instance : NatCast Float := ⟨Float.ofNat⟩

def decimal? (s : String) : Except Error Float := do
  let cs := (Text.lower (String.ofList (s.toList.filter (· != '_')))).toList
  let rest := Tag.unsigned cs
  let x ←
    if cs.isEmpty then throw .noDigits
    else if rest == ".inf".toList then pure (1.0 / 0.0)
    else if rest == ".nan".toList then return 0.0 / 0.0
    else if rest.contains ':' then
      pure (sixties (← (Text.pieces (· == ':') rest).mapM readDecimal))
    else readDecimal rest
  return if cs.head? == some '-' then -x else x

def truth? (s : String) : Except Error Bool :=
  let word := Text.lower s
  if ["yes", "true", "on"].contains word then .ok true
  else if ["no", "false", "off"].contains word then .ok false
  else .error (.notTruth word)

def sixBits? (c : Char) : Option Nat :=
  if 'A' ≤ c && c ≤ 'Z' then some (c.toNat - 'A'.toNat)
  else if 'a' ≤ c && c ≤ 'z' then some (c.toNat - 'a'.toNat + 26)
  else if c.isDigit then some (c.toNat - '0'.toNat + 52)
  else if c == '+' then some 62
  else if c == '/' then some 63
  else none

/-- Bytes from groups of four characters, of which `place` have been read and left bits over.
Characters that stand for nothing are passed over, and so is filling that is too early. -/
def bytesFrom (place left pads : Nat) : List Char → Except Error (List UInt8)
  | [] => if place == 0 then .ok [] else .error .malformed
  | c :: cs =>
    if c == '=' then
      if place < 2 then bytesFrom place left pads cs
      else if 4 ≤ place + pads + 1 then .ok []
      else bytesFrom place left (pads + 1) cs
    else
      match sixBits? c with
      | none => bytesFrom place left pads cs
      | some n =>
        match place with
        | 0 => bytesFrom 1 n 0 cs
        | 1 => return UInt8.ofNat (left * 4 + n / 16) :: (← bytesFrom 2 (n % 16) 0 cs)
        | 2 => return UInt8.ofNat (left * 16 + n / 4) :: (← bytesFrom 3 (n % 4) 0 cs)
        | _ => return UInt8.ofNat (left * 64 + n) :: (← bytesFrom 0 0 0 cs)

def bytes? (s : String) : Except Error (List UInt8) :=
  if s.toList.all (·.toNat < 128) then bytesFrom 0 0 0 s.toList else .error .malformed

def moment? (s : String) : Except Error Moment :=
  match Moment.ofText? (Text.withoutLineEnd s.toList) with
  | some m => match m.fault? with
    | some e => .error e
    | none => .ok m
  | none => .error .noGroups

def ofText (tag : Tag) (s : String) : Except Error Scalar :=
  match tag with
  | .null => .ok null
  | .truth => return truth (← truth? s)
  | .whole => return whole (← whole? s)
  | .decimal => return decimal (← decimal? s)
  | .moment => return moment (← moment? s)
  | .binary => return bytes (← bytes? s)
  | .text => .ok (text s)
  | _ => .error .malformed

/-- No text with half of a surrogate pair is a number, a truth value or a moment. -/
def ofTag (tag : Tag) : Text.Spelled → Except Error Scalar
  | .text s => ofText tag s
  | .halved codes =>
    match tag with
    | .null => .ok null
    | .text => .ok (halved codes)
    | .moment => .error .noGroups
    | .truth | .whole | .decimal => .error .unfollowed
    | _ => .error .malformed

end Scalar
end SchemaWrappers.Yaml
