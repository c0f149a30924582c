import SchemaWrappers.Text.Number
import SchemaWrappers.Text.Utf8

/-! JSON texts: values, and a reader that names the first fault and its place. -/
namespace SchemaWrappers

/-- Whole numbers and numbers with a fraction or an exponent are told apart, and so are texts that hold
half of a surrogate pair. Fields keep the order of their first appearance. -/
inductive Json where
  | null
  | bool (b : Bool)
  | whole (n : Int)
  | float (x : Float)
  | text (s : String)
  | halved (codes : List Nat)
  | list (items : List Json)
  | object (fields : List (String × Json))
  deriving Inhabited

namespace Json

inductive Fault where
  | byteOrderMark
  | noValue
  | noName
  | noColon
  | noComma
  | extra
  | unterminated
  | control
  | escape
  | codePoint
  /-- A whole number has so many digits that it is not read. -/
  | tooLong (digits : Nat)
  /-- A list or an object lies so deep in others that the stack has no room for it. -/
  | tooDeep (kind : String)
  deriving DecidableEq, Repr

def Fault.message : Fault → String
  | .byteOrderMark => "Unexpected UTF-8 BOM (decode using utf-8-sig)"
  | .noValue => "Expecting value"
  | .noName => "Expecting property name enclosed in double quotes"
  | .noColon => "Expecting ':' delimiter"
  | .noComma => "Expecting ',' delimiter"
  | .extra => "Extra data"
  | .unterminated => "Unterminated string starting at"
  | .control => "Invalid control character at"
  | .escape => "Invalid \\escape"
  | .codePoint => "Invalid \\uXXXX escape"
  | .tooLong digits => Text.tooLongMessage (some digits)
  | .tooDeep kind =>
    s!"maximum recursion depth exceeded while decoding a JSON {kind} from a unicode string"

/-- A fault and the number of characters that were left where it was found. -/
structure Trouble where
  fault : Fault
  left : Nat

/-- A fault and its place in the text, lines and columns counted from 1. -/
structure Error where
  fault : Fault
  line : Nat
  column : Nat
  position : Nat
  deriving DecidableEq, Repr

def Error.message (e : Error) : String :=
  s!"{e.fault.message}: line {e.line} column {e.column} (char {e.position})"

def errorAt (text : List Char) (t : Trouble) : Error :=
  let position := text.length - t.left
  let before := text.take position
  { fault := t.fault
    line := before.count '\n' + 1
    column := (before.reverse.takeWhile (· != '\n')).length + 1
    position }

def isSpace (c : Char) : Bool := c == ' ' || c == '\t' || c == '\n' || c == '\r'

def skip (cs : List Char) : List Char := cs.dropWhile isSpace

def hexDigit? (c : Char) : Option Nat :=
  if c.isDigit then some (c.toNat - '0'.toNat)
  else if 'a' ≤ c && c ≤ 'f' then some (c.toNat - 'a'.toNat + 10)
  else if 'A' ≤ c && c ≤ 'F' then some (c.toNat - 'A'.toNat + 10)
  else none

/-- Four hexadecimal digits, with something behind them. -/
def hexQuad? : List Char → Option (Nat × List Char)
  | a :: b :: c :: d :: e :: rest => do
    let n := ((← hexDigit? a) * 0x1000) + (← hexDigit? b) * 0x100 + (← hexDigit? c) * 0x10 +
      (← hexDigit? d)
    return (n, e :: rest)
  | _ => none

def escaped? (c : Char) : Option Char :=
  [('"', '"'), ('\\', '\\'), ('/', '/'), ('b', '\x08'), ('f', '\x0c'), ('n', '\n'), ('r', '\r'),
    ('t', '\t')].lookup c

/-- The number that a `\u` escape names, after the `u`: a pair of surrogates makes one character. -/
def codePoint (cs : List Char) : Except Trouble (Nat × List Char) :=
  match hexQuad? cs with
  | none => .error ⟨.codePoint, cs.length + 1⟩
  | some (high, rest) =>
    if 0xd800 ≤ high && high < 0xdc00 then
      match rest with
      | '\\' :: 'u' :: more =>
        if more.length ≤ 4 then .ok (high, rest)
        else
          match hexQuad? more with
          | none => .error ⟨.codePoint, more.length + 1⟩
          | some (low, after) =>
            if 0xdc00 ≤ low && low < 0xe000 then
              .ok (0x10000 + (high - 0xd800) * 0x400 + (low - 0xdc00), after)
            else .ok (high, rest)
      | _ => .ok (high, rest)
    else .ok (high, rest)

/-- The rest of a string, by the numbers of its characters; its opening quote had `opened` characters
from it to the end. -/
def stringBody (opened : Nat) : Nat → List Char → Except Trouble (List Nat × List Char)
  | 0, _ => .error ⟨.unterminated, opened⟩
  | _ + 1, [] => .error ⟨.unterminated, opened⟩
  | fuel + 1, c :: cs =>
    if c == '"' then .ok ([], cs)
    else if c == '\\' then
      match cs with
      | [] => .error ⟨.unterminated, opened⟩
      | 'u' :: cs => do
        let (d, cs) ← codePoint cs
        let (ds, cs) ← stringBody opened fuel cs
        return (d :: ds, cs)
      | e :: rest =>
        match escaped? e with
        | some d => do
          let (ds, cs) ← stringBody opened fuel rest
          return (d.toNat :: ds, cs)
        | none => .error ⟨.escape, cs.length + 1⟩
    else if c.toNat < 0x20 then .error ⟨.control, cs.length + 1⟩
    else do
      let (ds, cs) ← stringBody opened fuel cs
      return (c.toNat :: ds, cs)

def string (cs : List Char) : Except Trouble (Text.Spelled × List Char) := do
  let (codes, rest) ← stringBody (cs.length + 1) (cs.length + 1) cs
  return (.ofCodes codes, rest)

def digits (cs : List Char) : List Char × List Char :=
  (cs.takeWhile (·.isDigit), cs.dropWhile (·.isDigit))

/-- A number without its sign. -/
def unsigned? (negative : Bool) (cs : List Char) : Option (Json × List Char) :=
  let (front, rest) :=
    match cs with
    | '0' :: cs => (['0'], cs)
    | cs => digits cs
  if front.isEmpty then none
  else
    let (fraction, rest) :=
      match rest with
      | '.' :: more => match digits more with
        | ([], _) => ([], rest)
        | found => found
      | _ => ([], rest)
    let (power, rest) :=
      match rest with
      | e :: more =>
        if e == 'e' || e == 'E' then
          let (sign, ds) := match more with
            | '-' :: ds => ((-1 : Int), ds)
            | '+' :: ds => (1, ds)
            | ds => (1, ds)
          match digits ds with
          | ([], _) => (none, rest)
          | (ds, after) => (some (sign * Text.natOf ds), after)
        else (none, rest)
      | [] => (none, rest)
    let all := front ++ fraction
    if fraction.isEmpty && power.isNone then
      let n : Int := Text.natOf front
      some (.whole (if negative then -n else n), rest)
    else
      let power := power.getD 0 - fraction.length
      some (.float (Decimal.nearest negative (Text.natOf all) all.length power), rest)

def number? : List Char → Option (Json × List Char)
  | '-' :: cs => unsigned? true cs
  | cs => unsigned? false cs

/-- The words that stand for values. -/
def literals : List (List Char × Json) :=
  [("null".toList, .null), ("true".toList, .bool true), ("false".toList, .bool false),
    ("NaN".toList, .float (0.0 / 0.0)), ("Infinity".toList, .float (1.0 / 0.0)),
    ("-Infinity".toList, .float (-1.0 / 0.0))]

/-- A literal or a number. -/
def scalar (cs : List Char) : Except Trouble (Json × List Char) :=
  match literals.find? (·.1.isPrefixOf cs) with
  | some (word, value) => .ok (value, cs.drop word.length)
  | none =>
    match number? cs with
    | some (.whole n, rest) =>
      let digits := cs.length - rest.length - (if cs.head? == some '-' then 1 else 0)
      if Text.digitLimit < digits then .error ⟨.tooLong digits, cs.length⟩
      else .ok (.whole n, rest)
    | some found => .ok found
    | none => .error ⟨.noValue, cs.length⟩

/-- Puts a field into an object; a name that is there already gets the new value. -/
def setField (fields : List (String × Json)) (name : String) (value : Json) : List (String × Json) :=
  if fields.any (·.1 == name) then
    fields.map fun f => if f.1 == name then (name, value) else f
  else fields ++ [(name, value)]

mutual
/-- A value at the head of the text, no white space before it; `room` is how deep lists and objects may
still go. -/
def value (room : Nat) : Nat → List Char → Except Trouble (Json × List Char)
  | 0, cs => .error ⟨.noValue, cs.length⟩
  | fuel + 1, cs =>
    match cs, room with
    | '"' :: cs, _ => do
      match ← string cs with
      | (.text s, rest) => return (.text s, rest)
      | (.halved codes, rest) => return (.halved codes, rest)
    | '{' :: _, 0 => .error ⟨.tooDeep "object", cs.length⟩
    | '{' :: cs, room + 1 =>
      match skip cs with
      | '}' :: rest => .ok (.object [], rest)
      | cs => do
        let (fields, rest) ← fields room fuel [] cs
        return (.object fields, rest)
    | '[' :: _, 0 => .error ⟨.tooDeep "array", cs.length⟩
    | '[' :: cs, room + 1 =>
      match skip cs with
      | ']' :: rest => .ok (.list [], rest)
      | cs => do
        let (items, rest) ← items room fuel cs
        return (.list items, rest)
    | cs, _ => scalar cs

def items (room : Nat) : Nat → List Char → Except Trouble (List Json × List Char)
  | 0, cs => .error ⟨.noValue, cs.length⟩
  | fuel + 1, cs => do
    let (item, rest) ← value room fuel cs
    match skip rest with
    | ']' :: rest => return ([item], rest)
    | ',' :: rest =>
      let (more, rest) ← items room fuel (skip rest)
      return (item :: more, rest)
    | rest => throw ⟨.noComma, rest.length⟩

/-- The fields of an object up to its closing brace, added to those read before. Halves of surrogate
pairs count as U+FFFD in names, none of which is ever asked for. -/
def fields (room : Nat) : Nat → List (String × Json) → List Char →
    Except Trouble (List (String × Json) × List Char)
  | 0, _, cs => .error ⟨.noName, cs.length⟩
  | fuel + 1, before, cs =>
    match cs with
    | '"' :: cs => do
      let (name, rest) ← string cs
      match skip rest with
      | ':' :: rest =>
        let (v, rest) ← value room fuel (skip rest)
        let known := setField before (name.marked fun _ => '\ufffd') v
        match skip rest with
        | '}' :: rest => return (known, rest)
        | ',' :: rest => fields room fuel known (skip rest)
        | rest => throw ⟨.noComma, rest.length⟩
      | rest => throw ⟨.noColon, rest.length⟩
    | cs => .error ⟨.noName, cs.length⟩
end

/-- The one value that makes up a text. -/
def ofChars (room : Nat) (cs : List Char) : Except Trouble Json :=
  match cs with
  | '\ufeff' :: _ => .error ⟨.byteOrderMark, cs.length⟩
  | _ => do
    -- an opening bracket takes two steps: one into the list, and one to its first item
    let (v, rest) ← value room (2 * cs.length + 2) (skip cs)
    match skip rest with
    | [] => return v
    | rest => throw ⟨.extra, rest.length⟩

def parse (room : Nat) (s : String) : Except Error Json :=
  let cs := s.toList
  match ofChars room cs with
  | .ok v => .ok v
  | .error t => .error (errorAt cs t)

end Json
end SchemaWrappers
