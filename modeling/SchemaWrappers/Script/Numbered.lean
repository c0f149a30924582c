import SchemaWrappers.Script.Packed
import SchemaWrappers.Text.Word

/-! Scripts whose words were replaced by numbers, to be found in a list of words at their end. -/
namespace SchemaWrappers.Script
namespace Numbered
open Packed

/-- Why a script cannot be unpacked: it is not of the form that it seems to be, or its numbers do not
lead to words. -/
inductive Trouble where
  | form
  | number

def skipBlanks (cs : List Char) : List Char := cs.dropWhile (· == ' ')

/-- Takes texts off the head one after the other, blanks before and between them apart. -/
def afterAll? : List (List Char) → List Char → Option (List Char)
  | [], cs => some cs
  | t :: ts, cs => do afterAll? ts (skipBlanks (← after? t cs))

/-- The function that puts words in the place of numbers begins so. -/
def opening : List (List Char) :=
  ["eval", "(", "function", "(", "p", ",", "a", ",", "c", ",", "k", ",", "e", ","].map (·.toList)

/-- What stands before the first place where `p` holds, and from there on. -/
def firstSplit (p : List Char → Bool) : List Char → Option (List Char × List Char)
  | [] => if p [] then some ([], []) else none
  | c :: cs =>
    if p (c :: cs) then some ([], c :: cs)
    else (firstSplit p cs).map fun (front, rest) => (c :: front, rest)

/-- What stands before the last place from which on a text can be read, and what is read there. -/
def lastSplit (read : List Char → Option α) : List Char → Option (List Char × α)
  | [] => (read []).map ([], ·)
  | c :: cs =>
    match lastSplit read cs with
    | some (front, a) => some (c :: front, a)
    | none => (read (c :: cs)).map ([], ·)

def splitOn (separator : List Char) : Nat → List Char → List (List Char)
  | 0, cs => [cs]
  | fuel + 1, cs =>
    match firstSplit separator.isPrefixOf cs with
    | some (front, rest) => front :: splitOn separator fuel (rest.drop separator.length)
    | none => [cs]

/-- The script around the packed part: what stands before it and behind it. -/
def around? (cs : List Char) : Option (List Char × List Char) := do
  let (front, rest) ← firstSplit (fun cs => (afterAll? opening cs).isSome) cs
  let behind (mark : String) : Option (List Char) :=
    (firstSplit mark.toList.isPrefixOf rest).map fun (_, cs) => cs.drop mark.length
  return (front, ((behind "')))").or (behind "\x7d))")).getD [])

/-- A packed part: its text, the base of its numbers, how many words it has, and the words. -/
structure Part where
  text : List Char
  base : Nat
  count : Nat
  words : List (List Char)

def digits? (cs : List Char) : Option (Nat × List Char) := do
  let ds := cs.takeWhile (·.isDigit)
  guard !ds.isEmpty
  return (ds.foldl (fun n d => n * 10 + (d.toNat - '0'.toNat)) 0, cs.drop ds.length)

/-- What follows the list of words; `closed` tells whether the call that they are given to must be
there up to its end. -/
def wordsEnd (closed : Bool) (cs : List Char) : Option Unit := do
  let rest ← after? "'.split('|')".toList cs
  if closed then
    let (_, rest) ← digits? (skipBlanks (← after? [','] rest))
    let rest ← after? [','] rest
    let _ ← firstSplit "))".toList.isPrefixOf (skipBlanks rest)

/-- What follows the text: base, count and words. -/
def listing (closed : Bool) (cs : List Char) : Option (Nat × Nat × List Char) := do
  let rest := skipBlanks (← after? ['\'', ','] cs)
  let (base, rest) ← match after? ['[', ']'] rest with
    | some rest => some (62, rest)
    | none => digits? rest
  let (count, rest) ← digits? (skipBlanks (← after? [','] rest))
  let words ← after? ['\''] (skipBlanks (← after? [','] rest))
  let (words, ()) ← lastSplit (wordsEnd closed) words
  return (base, count, words)

def part? (closed : Bool) : List Char → Option Part
  | [] => none
  | c :: cs =>
    let here : Option Part := do
      let rest ← after? "\x7d('".toList (c :: cs)
      let (text, base, count, words) ← lastSplit (listing closed) rest
      return ⟨text, base, count, splitOn ['|'] words.length words⟩
    here.or (part? closed cs)

def isWordChar (c : Char) : Bool := c.isAlphanum || c == '_'

/-- The digits of large bases. -/
def numerals : List Char :=
  "0123456789abcdefghijklmnopqrstuvwxyzABCDEFGHIJKLMNOPQRSTUVWXYZ".toList

def valueIn (base : Nat) (digit : Char → Option Nat) (cs : List Char) : Option Nat :=
  cs.foldlM (fun n c => (digit c).map (n * base + ·)) 0

/-- The value of a letter or digit, large and small letters being alike. -/
def digitIn (base : Nat) (c : Char) : Option Nat :=
  let n := numerals.idxOf c.toLower
  if n < base then some n else none

def withoutLines : List Char → Option (List Char)
  | [] => none
  | '_' :: _ => none
  | [c] => some [c]
  | c :: '_' :: cs => (withoutLines cs).map (c :: ·)
  | c :: cs => (withoutLines cs).map (c :: ·)

def smallNumber? (base : Nat) (cs : List Char) : Option Nat := do
  let mark := if base == 16 then 'x' else if base == 8 then 'o' else if base == 2 then 'b' else ' '
  let cs := match cs with
    | '0' :: m :: '_' :: rest => if m.toLower == mark then rest else cs
    | '0' :: m :: rest => if m.toLower == mark then rest else cs
    | _ => cs
  valueIn base (digitIn base) (← withoutLines cs)

def number? (base : Nat) (cs : List Char) : Option Nat :=
  if base ≤ 36 then smallNumber? base cs
  else if base == 95 then valueIn 95 (fun c => some (c.toNat - 32)) cs
  else valueIn base (fun c => let n := numerals.idxOf c; if n < base then some n else none) cs

def isBase (n : Nat) : Bool := (2 ≤ n && n ≤ 62) || n == 95

def Part.expanded (p : Part) : Except Trouble (List Char) := do
  if p.count != p.words.length || !isBase p.base then throw .form
  let text := replaceAll ['\\', '\\'] ['\\'] p.text.length p.text
  let text := replaceAll ['\\', '\''] ['\''] text.length text
  let parts ← (stretches isWordChar text).mapM fun run =>
    if run.head?.any isWordChar then
      match (number? p.base run).bind (p.words[·]?) with
      | some word => pure (if word.isEmpty then run else word)
      | none => throw .number
    else pure run
  return parts.flatten

/-- A table of strings in a text: its name, its strings, and the characters it takes. -/
def stringTable? : List Char → Option (List Char × List (List Char) × Nat)
  | [] => none
  | c :: cs =>
    let here : Option (List Char × List (List Char) × Nat) := do
      let rest ← after? ['_'] (skipBlanks (← after? "var".toList (c :: cs)))
      let name := rest.takeWhile Text.isWord
      guard !name.isEmpty
      let rest ← after? "=[\"".toList (rest.drop name.length)
      let (body, rest) ← firstSplit "\"];".toList.isPrefixOf rest
      return ('_' :: name, splitOn "\",\"".toList body.length body, cs.length + 1 - (rest.length - 3))
    here.or (stringTable? cs)

/-- Puts a script's strings where it uses their table, which is dropped; one without a table is put
between what stands around it. -/
def withStrings (front behind cs : List Char) : List Char :=
  match stringTable? cs with
  | none => front ++ cs ++ behind
  | some (name, strings, length) =>
    (strings.zipIdx.foldl (fun code (s, i) =>
      replaceAll (name ++ ['['] ++ (toString i).toList ++ [']']) ('"' :: s ++ ['"']) code.length
        code) cs).drop length

/-- The unpacked script, where `front` and `behind` stand around the packed part. -/
def expanded (front behind cs : List Char) : Except Trouble (List Char) := do
  match (part? true cs).or (part? false cs) with
  | some p => return withStrings front behind (← p.expanded)
  | none => throw .form

end Numbered

namespace Packed

/-- The text to be laid out, unless it cannot be told. A script that only seems to be packed is left
as it is. -/
def unpacked (cs : List Char) : Option (List Char) :=
  let plain := if (table? cs).isSome then withoutTable cs
    else if isPercentEncoded cs then percentDecoded cs
    else cs
  match Numbered.around? cs with
  | none => some plain
  | some (front, behind) =>
    match Numbered.expanded front behind plain with
    | .ok cs => some cs
    | .error .form => some cs
    | .error .number => none

end Packed
end SchemaWrappers.Script
