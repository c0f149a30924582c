import SchemaWrappers.Text.Quoted

/-! UTF-8: encoding, strict decoding that names the first fault, and decoding that drops faulty
bytes; and texts that are spelled with escapes, not all of which can be encoded. -/
namespace SchemaWrappers

/-- What escapes may spell. They may name half of a surrogate pair, which is no character: a text with
one in it is known by the numbers of what it is made up of, and cannot be encoded. -/
inductive Text.Spelled where
  | text (s : String)
  | halved (codes : List Nat)
  deriving DecidableEq, Repr

namespace Text.Spelled

def ofCodes (codes : List Nat) : Spelled :=
  if codes.all fun n => n.isValidChar then text (String.ofList (codes.map Char.ofNat))
  else halved codes

/-- A text with `mark` in place of each half of a surrogate pair. -/
def marked (mark : Nat → Char) : Spelled → String
  | text s => s
  | halved codes => String.ofList (codes.map fun n => if n.isValidChar then Char.ofNat n else mark n)

/-- Two characters without a meaning that stand for half of a surrogate pair. -/
def lowMark (n : Nat) : Char := Char.ofNat (n - 0xd800 + 0xe000)
def highMark (n : Nat) : Char := Char.ofNat (n - 0xd800 + 0xe800)

/-- The text whose halves of surrogate pairs are marked in these two ways. -/
def ofMarked (low high : String) : Spelled :=
  ofCodes (List.zipWith (fun a b => if a == b then a.toNat else a.toNat - 0xe000 + 0xd800)
    low.toList high.toList)

end Text.Spelled

namespace Utf8
open Text

def encode (cs : List Char) : List UInt8 := cs.flatMap String.utf8EncodeChar

/-- Why a text cannot be encoded: the first halves of surrogate pairs in it. -/
def unencodableMessage (codes : List Nat) : String :=
  let before := (codes.takeWhile fun n => n.isValidChar).length
  let halves := (codes.drop before).takeWhile fun n => !n.isValidChar
  let place := match halves with
    | [n] => s!"character '\\u{String.ofList (hexDigits 4 n)}' in position {before}"
    | _ => s!"characters in position {before}-{before + halves.length - 1}"
  s!"'utf-8' codec can't encode {place}: surrogates not allowed"

inductive Fault where
  | badStart
  | badContinuation
  | truncated
  deriving DecidableEq, Repr

/-- The continuation bytes a leading byte announces, the least and the greatest first of them, and
the bits the leading byte itself contributes. -/
structure Lead where
  count : Nat
  low : Nat
  high : Nat
  bits : Nat

/-- No character starts with a byte for which this is `none`. -/
def lead (b : Nat) : Option Lead :=
  if b < 0x80 then some ⟨0, 0x80, 0xbf, b⟩
  else if b < 0xc2 then none
  else if b < 0xe0 then some ⟨1, 0x80, 0xbf, b - 0xc0⟩
  else if b < 0xf0 then
    some ⟨2, if b == 0xe0 then 0xa0 else 0x80, if b == 0xed then 0x9f else 0xbf, b - 0xe0⟩
  else if b < 0xf5 then
    some ⟨3, if b == 0xf0 then 0x90 else 0x80, if b == 0xf4 then 0x8f else 0xbf, b - 0xf0⟩
  else none

/-- Reads `count` continuation bytes, the first of them between `low` and `high`. On a fault tells
how many bytes were good. -/
def continuation (count low high bits good : Nat) : List UInt8 → Except (Fault × Nat) (Nat × List UInt8)
  | bs =>
    match count with
    | 0 => .ok (bits, bs)
    | count + 1 =>
      match bs with
      | [] => .error (.truncated, good)
      | b :: bs =>
        if low ≤ b.toNat && b.toNat ≤ high then
          continuation count 0x80 0xbf (bits * 0x40 + (b.toNat - 0x80)) (good + 1) bs
        else .error (.badContinuation, good)

/-- The first character and the bytes after it; on a fault, the number of bytes it covers. -/
def next (b : UInt8) (bs : List UInt8) : Except (Fault × Nat) (Char × List UInt8) :=
  match lead b.toNat with
  | none => .error (.badStart, 1)
  | some l =>
    match continuation l.count l.low l.high l.bits 1 bs with
    | .ok (n, rest) => .ok (Char.ofNat n, rest)
    | .error e => .error e

theorem continuation_length {count low high bits good n : Nat} {bs rest : List UInt8}
    (h : continuation count low high bits good bs = .ok (n, rest)) : rest.length ≤ bs.length := by
  induction count generalizing low high bits good bs with
  | zero => simp only [continuation, Except.ok.injEq, Prod.mk.injEq] at h; simp [h.2]
  | succ count ih =>
    cases bs with
    | nil => simp [continuation] at h
    | cons b bs =>
      simp only [continuation] at h
      split at h
      · have := ih h; simp only [List.length_cons]; omega
      · simp at h

theorem next_length {b : UInt8} {bs rest : List UInt8} {c : Char}
    (h : next b bs = .ok (c, rest)) : rest.length ≤ bs.length := by
  simp only [next] at h
  split at h
  · simp at h
  · split at h
    · rename_i hc
      simp only [Except.ok.injEq, Prod.mk.injEq] at h
      exact h.2 ▸ continuation_length hc
    · simp at h

/-- The bytes of the first fault, where it lies, and its kind. -/
structure Error where
  position : Nat
  bytes : List UInt8
  fault : Fault
  deriving DecidableEq, Repr

def Error.message (e : Error) : String :=
  let reason := match e.fault with
    | .badStart => "invalid start byte"
    | .badContinuation => "invalid continuation byte"
    | .truncated => "unexpected end of data"
  let place := match e.bytes with
    | [b] => s!"byte 0x{String.ofList (hexDigits 2 b.toNat)} in position {e.position}"
    | bs => s!"bytes in position {e.position}-{e.position + bs.length - 1}"
  s!"'utf-8' codec can't decode {place}: {reason}"

def decodeFrom (position : Nat) (bs : List UInt8) : Except Error (List Char) :=
  match bs with
  | [] => .ok []
  | b :: rest =>
    match h : next b rest with
    | .ok (c, after) =>
      have := next_length h
      match decodeFrom (position + (bs.length - after.length)) after with
      | .ok cs => .ok (c :: cs)
      | .error e => .error e
    | .error (fault, n) => .error ⟨position, bs.take n, fault⟩
termination_by bs.length
decreasing_by simp_all only [List.length_cons]; omega

/-- Every byte must belong to a character. -/
def decode (bs : List UInt8) : Except Error (List Char) := decodeFrom 0 bs

/-- The characters of a byte string, with `mark` for the bytes of each fault. -/
def decodeMarking (mark : List Char) (bs : List UInt8) : List Char :=
  match bs with
  | [] => []
  | b :: rest =>
    match h : next b rest with
    | .ok (c, after) =>
      have := next_length h
      c :: decodeMarking mark after
    | .error (_, n) => mark ++ decodeMarking mark (rest.drop (n - 1))
termination_by bs.length
decreasing_by all_goals (simp_all only [List.length_cons, List.length_drop]; omega)

/-- The characters of a byte string, the bytes of each fault left out. -/
def decodeLossy (bs : List UInt8) : List Char := decodeMarking [] bs

end Utf8
end SchemaWrappers
