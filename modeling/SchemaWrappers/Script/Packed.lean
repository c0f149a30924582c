import SchemaWrappers.Text.Character
import SchemaWrappers.Text.Utf8

/-! Scripts that were packed for transport, and their text unpacked: percent-encoded ones, and those
whose strings were moved to a table at the head. -/
namespace SchemaWrappers.Script.Packed

/-- Percent signs and digits stand for bytes; a plus sign stands for a space. -/
def isPercentEncoded (cs : List Char) : Bool :=
  let rec hasBlank : List Char → Bool
    | '%' :: '2' :: '0' :: _ => true
    | _ :: cs => hasBlank cs
    | [] => false
  !cs.contains ' ' && (hasBlank cs || 3 < cs.count '%')

def hexValue? (c : Char) : Option Nat :=
  if c.isDigit then some (c.toNat - '0'.toNat)
  else if 'a' ≤ c.toLower && c.toLower ≤ 'f' then some (c.toLower.toNat - 'a'.toNat + 10)
  else none

/-- The byte that a percent sign and two digits at the head stand for. -/
def percentByte? : List Char → Option (UInt8 × List Char)
  | '%' :: a :: b :: cs => do
    return (UInt8.ofNat ((← hexValue? a) * 16 + (← hexValue? b)), cs)
  | _ => none

/-- The bytes of ASCII characters, encoded ones among them. -/
def bytesOf : Nat → List Char → List UInt8
  | 0, _ => []
  | _, [] => []
  | fuel + 1, c :: cs =>
    match percentByte? (c :: cs) with
    | some (b, rest) => b :: bytesOf fuel rest
    | none => UInt8.ofNat c.toNat :: bytesOf fuel cs

def stretches (p : Char → Bool) : List Char → List (List Char)
  | [] => []
  | c :: cs =>
    match stretches p cs with
    | (d :: ds) :: rest => if p c == p d then (c :: d :: ds) :: rest else [c] :: (d :: ds) :: rest
    | rest => [c] :: rest

/-- The text that percent signs and digits encode. Faulty bytes become replacement characters. -/
def percentDecoded (cs : List Char) : List Char :=
  let isAscii (c : Char) : Bool := c.toNat < 0x80
  let plain := cs.map fun c => if c == '+' then ' ' else c
  (stretches isAscii plain).flatMap fun run =>
    if run.head?.any isAscii then Utf8.decodeMarking ['\ufffd'] (bytesOf run.length run) else run

def after? (front : List Char) (cs : List Char) : Option (List Char) :=
  if front.isPrefixOf cs then some (cs.drop front.length) else none

def withoutSpace (cs : List Char) : List Char := if cs.head? == some ' ' then cs.drop 1 else cs

/-- The name of a string table at the head, and what follows its opening bracket. -/
def table? (cs : List Char) : Option (List Char × List Char) := do
  let lead := "_0x".toList
  let cs ← after? lead (← after? "var ".toList cs)
  let digits := cs.takeWhile fun c => c.isDigit || ('a' ≤ c && c ≤ 'f')
  guard !digits.isEmpty
  let rest ← after? ['='] (withoutSpace (cs.drop digits.length))
  return (lead ++ digits, ← after? ['['] (withoutSpace rest))

/-- What stands before the end of a table, on the same line, and what follows. -/
def tableBody? : List Char → Option (List Char × List Char)
  | ']' :: ';' :: rest => some ([], rest)
  | '\n' :: _ => none
  | c :: cs => (tableBody? cs).map fun (body, rest) => (c :: body, rest)
  | [] => none

/-- A string up to its quote, escapes kept as they are, and what follows. -/
def stringBody : List Char → List Char × List Char
  | [] => ([], [])
  | '"' :: rest => ([], rest)
  | '\\' :: c :: cs =>
    let (body, rest) := stringBody cs
    ('\\' :: c :: body, rest)
  | c :: cs =>
    let (body, rest) := stringBody cs
    (c :: body, rest)

def strings : Nat → List Char → List (List Char)
  | 0, _ => []
  | fuel + 1, cs =>
    match cs.dropWhile (· != '"') with
    | [] => []
    | _ :: cs =>
      let (body, rest) := stringBody cs
      ('"' :: body ++ ['"']) :: strings fuel rest

def replaceAll (old new : List Char) : Nat → List Char → List Char
  | 0, cs => cs
  | _, [] => []
  | fuel + 1, c :: cs =>
    match after? old (c :: cs) with
    | some rest => new ++ replaceAll old new fuel rest
    | none => c :: replaceAll old new fuel cs

/-- The name of the first table that a text holds, its body, and the characters it takes. -/
def firstTable? : List Char → Option (List Char × List Char × Nat)
  | [] => none
  | c :: cs =>
    let here : Option (List Char × List Char × Nat) := do
      let (name, rest) ← table? (c :: cs)
      let (body, rest) ← tableBody? rest
      return (name, body, cs.length + 1 - rest.length)
    here.or (firstTable? cs)

/-- The script without the table at its head, each use of it replaced by its string. -/
def withoutTable (cs : List Char) : List Char :=
  match firstTable? cs with
  | none => cs
  | some (name, body, length) =>
    ((strings body.length body).zipIdx).foldl (fun code (s, i) =>
      replaceAll (name ++ ['['] ++ (toString i).toList ++ [']']) s code.length code) (cs.drop length)

end SchemaWrappers.Script.Packed
