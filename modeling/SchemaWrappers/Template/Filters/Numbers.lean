import SchemaWrappers.Template.Members

namespace SchemaWrappers.Template.Filters
open Eval Filtering

/-- The whole number that a text tells, in a base or, if the base is nought, in the one that its
beginning names. -/
def wholeOfText? (s : String) (base : Value) : Option Int := do
  let base ← base.whole?
  let read (base : Nat) : Option Int :=
    match Text.whole base s.toList with
    | .ok n => some n
    | .error _ => none
  if base != 0 then
    if base < 2 || 36 < base then none else read base.toNat
  else
    let (_, cs) := Text.signed (Text.trimmed s.toList)
    match cs with
    | '0' :: c :: cs =>
      match c.toLower with
      | 'x' => read 16
      | 'o' => read 8
      | 'b' => read 2
      | _ => if (c :: cs).all fun c => c == '0' || c == '_' then read 10 else none
    | _ => read 10

def wholePart? (x : Float) : Option Int := if x.isNaN || x.isInf then none else some (Decimal.truncate x)

def toWhole (v fallback base : Value) : Eval Value := do
  match v with
  | .text s _ =>
    match wholeOfText? s base with
    | some n => return .whole n
    | none => return (((Text.decimal? s.toList).bind wholePart?).map Value.whole).getD fallback
  | .decimal x =>
    if x.isInf then overflow "cannot convert float infinity to integer"
    else return ((wholePart? x).map Value.whole).getD fallback
  | .absent _ message => absent message
  | v => return (v.whole?.map Value.whole).getD fallback

def numberOf? (v : Value) : Eval (Option Float) := do
  match v with
  | .text s _ => return Text.decimal? s.toList
  | .absent _ message => absent message
  | v => floatOf v

def wholeBeside (up : Bool) (v : Value) : Eval Value := do
  match v with
  | .decimal x =>
    if x.isNaN then value "cannot convert float NaN to integer"
    if x.isInf then overflow "cannot convert float infinity to integer"
    return .whole (if up then Decimal.ceiling x else Decimal.floor x)
  | .absent _ message => absent message
  | v =>
    match v.whole? with
    | some n => return .whole n
    | none => kind s!"must be real number, not {v.sortName}"

/-- A whole number rounded to a power of ten, a half to the even one. -/
def roundWhole (n : Int) (places : Int) : Int :=
  if 0 ≤ places then n
  else
    let unit := Nat.pow 10 places.natAbs
    let m : Int := Decimal.roundHalf n.natAbs unit * unit
    if n < 0 then -m else m

def round (v places method : Value) : Eval Value := do
  let method ← match method with
    | .text m _ => pure m
    | _ => pure ""
  if !(["common", "ceil", "floor"].contains method) then
    throw (.template "method must be common, ceil or floor")
  if method == "common" then
    match v, v.whole? with
    | .decimal x, _ =>
      match places with
      | .none => return .whole (Decimal.rounded x)
      | places => return .decimal (Decimal.roundTo x (← index places))
    | _, some n =>
      match places with
      | .none => return .whole n
      | places => return .whole (roundWhole n (← index places))
    | v, none => kind s!"type {v.sortName} doesn't define __round__ method"
  else
    let unit ← operate .power (.whole 10) places
    operate .divide (← wholeBeside (method == "ceil") (← operate .multiply v unit)) unit

/-- A number of bytes in the largest unit that it reaches. -/
def fileSize (v binary : Value) : Eval Value := do
  let x ← match v with
    | .text s _ =>
      match Text.decimal? s.toList with
      | some x => pure x
      | none => value s!"could not convert string to float: {Text.quote s}"
    | .absent _ message => absent message
    | v =>
      match ← floatOf v with
      | some x => pure x
      | none => kind s!"float() argument must be a string or a real number, not '{v.sortName}'"
  let binary ← holds binary
  let base : Nat := if binary then 1024 else 1000
  let units := if binary then ["KiB", "MiB", "GiB", "TiB", "PiB", "EiB", "ZiB", "YiB"]
    else ["kB", "MB", "GB", "TB", "PB", "EB", "ZB", "YB"]
  let size (i : Nat) : Float := (Decimal.ofWhole? (Nat.pow base (i + 2))).getD 1.0
  let text (u : String) (i : Nat) : Value :=
    let y := Float.ofNat base * x / size i
    let sign := if y < 0.0 then ['-'] else []
    .ofChars (sign ++ Decimal.fixed (Float.abs y) 1 false ++ ' ' :: u.toList) false
  if x == 1.0 then return .plain "1 Byte"
  else if x < Float.ofNat base then
    match wholePart? x with
    | some n => return .plain s!"{n} Bytes"
    | none => value "cannot convert float NaN to integer"
  else
    match units.zipIdx.find? fun (_, i) => x < size i with
    | some (u, i) => return text u i
    | none => return text "YB" 7

def absolute (v : Value) : Eval Value := do
  match v with
  | .decimal x => return .decimal (Float.abs x)
  | v =>
    match v.whole? with
    | some n => return .whole n.natAbs
    | none => kind s!"bad operand type for abs(): '{v.sortName}'"

def numbers : List (String × Filtering) :=
  [("abs", { owner := "abs", run := fun _ v => absolute (v 0) }),
    ("int", { owner := "do_int"
              parameters := [required "value", optional "default" (.whole 0),
                optional "base" (.whole 10)]
              run := fun _ v => toWhole (v 0) (v 1) (v 2) }),
    ("float", { owner := "do_float"
                parameters := [required "value", optional "default" (.decimal 0.0)]
                run := fun _ v => do return ((← numberOf? (v 0)).map Value.decimal).getD (v 1) }),
    ("round", { owner := "do_round"
                parameters := [required "value", optional "precision" (.whole 0),
                  optional "method" (.plain "common")]
                run := fun _ v => round (v 0) (v 1) (v 2) }),
    ("filesizeformat", { owner := "do_filesizeformat"
                         parameters := [required "value", flag "binary" false]
                         run := fun _ v => fileSize (v 0) (v 1) })]

end SchemaWrappers.Template.Filters
