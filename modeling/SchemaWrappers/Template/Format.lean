import SchemaWrappers.Decimal.Written
import SchemaWrappers.Template.Walk

namespace SchemaWrappers.Template

def digitsIn (base n : Nat) (capital : Bool) : List Char :=
  let ds := Nat.toDigits base n
  if capital then ds.map Char.toUpper else ds

/-- A number as it is written without its sign: what stands before the digits, and the digits. -/
structure Figures where
  negative : Bool
  mark : List Char := []
  digits : List Char

def Figures.sign (f : Figures) (plus space : Bool) : List Char :=
  if f.negative then ['-'] else if plus then ['+'] else if space then [' '] else []

/-- A number that is not whole, by the letter of its form. -/
def figuresOf (x : Float) (form : Char) (places : Nat) (alt : Bool) : Figures :=
  let negative := x.toBits >>> 63 == 1
  let z := Float.abs x
  let digits :=
    if x.isNaN then "nan".toList
    else if x.isInf then "inf".toList
    else
      match form.toLower with
      | 'f' => Decimal.fixed z places alt
      | 'e' => Decimal.scientific z places alt
      | _ => Decimal.general z places alt
  ⟨negative && !x.isNaN, [], if form.isUpper then digits.map Char.toUpper else digits⟩

namespace Eval

def floatOf (v : Value) : Eval (Option Float) := do
  match v with
  | .decimal x => return some x
  | v =>
    match v.whole? with
    | some n =>
      match Decimal.ofWhole? n with
      | some x => return some x
      | none => throw (.misuse .overflow "int too large to convert to float")
    | none => return none

def asciiShown (v : Value) : Eval String := do
  return String.ofList ((← shown v).toList.flatMap Lexer.escaped)

/-- How one value is put in behind a percent sign. -/
structure Slot where
  left : Bool := false
  plus : Bool := false
  space : Bool := false
  alt : Bool := false
  zero : Bool := false
  width : Nat := 0
  places : Option Nat := none

/-- Sign, mark and digits brought to a width. -/
def Slot.number (s : Slot) (f : Figures) : List Char :=
  let sign := f.sign s.plus s.space
  let pad := s.width - (sign.length + f.mark.length + f.digits.length)
  let body (zeros : Nat) := sign ++ f.mark ++ List.replicate zeros '0' ++ f.digits
  if s.left then body 0 ++ List.replicate pad ' '
  else if s.zero then body pad
  else List.replicate pad ' ' ++ body 0

def Slot.text (s : Slot) (cs : List Char) : List Char :=
  let cs := match s.places with
    | some n => cs.take n
    | none => cs
  let pad := List.replicate (s.width - cs.length) ' '
  if s.left then cs ++ pad else pad ++ cs

/-- What is left to put in: a table for names, or values one after the other. -/
structure Supply where
  table : Option Value
  rest : List Value

def wholeFor (form : Char) (v : Value) : Eval Int := do
  let unfit (what : String) : Eval Int := kind s!"%{form} format: {what} is required, not {v.sortName}"
  match v with
  | .absent _ message => absent message
  | .decimal x =>
    if ['x', 'X', 'o'].contains form then unfit "an integer"
    else if x.isNaN then value "cannot convert float NaN to integer"
    else if x.isInf then throw (.misuse .overflow "cannot convert float infinity to integer")
    else return Decimal.truncate x
  | v =>
    match v.whole? with
    | some n => return n
    | none => unfit (if ['x', 'X', 'o'].contains form then "an integer" else "a real number")

def escapedIf (escape : Bool) (v : Value) : Eval String := do
  if escape then escaped v else textOf v

def numbered (n : Int) : Eval Char := do
  if n < 0 || 0x110000 ≤ n then throw (.misuse .overflow "%c arg not in range(0x110000)")
  else if n.toNat.isValidChar then return Char.ofNat n.toNat
  else unfollowed

def fill (escape : Bool) (s : Slot) (form : Char) (place : Nat) (v : Value) : Eval (List Char) := do
  match form with
  | 's' => return s.text (← escapedIf escape v).toList
  | 'r' | 'a' =>
    let shown ← if form == 'r' then shown v else asciiShown v
    return s.text (if escape then escapedText shown else shown).toList
  | 'c' =>
    match v with
    | .text t _ =>
      if t.length == 1 then return { s with places := none }.text t.toList
      else kind "%c requires int or char"
    | v =>
      match v.whole? with
      | some n =>
        return { s with places := none }.text [← numbered n]
      | none => kind "%c requires int or char"
  | 'd' | 'i' | 'u' | 'x' | 'X' | 'o' =>
    let n ← wholeFor form v
    let (base, mark) : Nat × List Char := match form with
      | 'x' | 'X' => (16, ['0', form])
      | 'o' => (8, ['0', 'o'])
      | _ => (10, [])
    if base == 10 then let _ ← wholeText n
    let ds := digitsIn base n.natAbs (form == 'X')
    let ds := List.replicate (s.places.getD 0 - ds.length) '0' ++ ds
    return s.number ⟨n < 0, if s.alt then mark else [], ds⟩
  | 'e' | 'E' | 'f' | 'F' | 'g' | 'G' =>
    match v with
    | .absent _ message => absent message
    | v =>
      match ← floatOf v with
      | some x => return s.number (figuresOf x form (s.places.getD 6) s.alt)
      | none => kind s!"must be real number, not {v.sortName}"
  | c =>
    let code := String.ofList (Nat.toDigits 16 c.toNat)
    value s!"unsupported format character '{c}' (0x{code}) at index {place}"

def nextOf (supply : Supply) : Eval (Value × Supply) := do
  match supply.rest with
  | v :: rest => return (v, { supply with rest })
  | [] => kind "not enough arguments for format string"

def flags (s : Slot) : List Char → Slot × List Char
  | '-' :: cs => flags { s with left := true } cs
  | '+' :: cs => flags { s with plus := true } cs
  | ' ' :: cs => flags { s with space := true } cs
  | '#' :: cs => flags { s with alt := true } cs
  | '0' :: cs => flags { s with zero := true } cs
  | cs => (s, cs)

/-- A width or a number of places, given as digits or by the next value. -/
def measure (supply : Supply) (cs : List Char) : Eval (Option Int × Supply × List Char) := do
  match cs with
  | '*' :: cs =>
    let (v, supply) ← nextOf supply
    match v.whole? with
    | some n => return (some n, supply, cs)
    | none => kind "* wants int"
  | cs =>
    let ds := cs.takeWhile Char.isDigit
    return (if ds.isEmpty then none else some (Text.natOf ds), supply, cs.drop ds.length)

/-- The key in brackets behind a percent sign, which may hold brackets itself. -/
def keyIn : Nat → List Char → Option (List Char × List Char)
  | _, [] => none
  | 0, ')' :: cs => some ([], cs)
  | n, c :: cs =>
    let n := if c == '(' then n + 1 else if c == ')' then n - 1 else n
    (keyIn n cs).map fun (key, rest) => (c :: key, rest)

def required (table : Value) (key : String) : Eval Value := do
  match table with
  | .table n =>
    match ← lookUp (← entries n) (.plain key) with
    | some v => return v
    | none => throw (.misuse .key key)
  | .list _ => kind "list indices must be integers or slices, not str"
  | .absent _ message => absent message
  | v => kind s!"'{v.sortName}' object is not subscriptable"

/-- A pattern with values put in for what stands behind its percent signs. -/
def percentFrom (escape : Bool) (size : Nat) : Nat → Supply → List Char →
    Eval (List Char × Supply)
  | 0, supply, _ => pure ([], supply)
  | _, supply, [] => pure ([], supply)
  | fuel + 1, supply, '%' :: cs => do
    let incomplete {α : Type} : Eval α := value "incomplete format"
    let (supply, cs) ← match cs with
      | '(' :: cs =>
        match supply.table, keyIn 0 cs with
        | none, _ => kind "format requires a mapping"
        | some _, none => value "incomplete format key"
        | some table, some (key, cs) =>
          pure ({ supply with rest := [← required table (String.ofList key)] }, cs)
      | cs => pure (supply, cs)
    let (s, cs) := flags {} cs
    let (width, supply, cs) ← measure supply cs
    let s : Slot := match width with
      | some n => { s with width := n.natAbs, left := s.left || n < 0 }
      | none => s
    let (s, supply, cs) ← match cs with
      | '.' :: cs => do
        let (places, supply, cs) ← measure supply cs
        pure ({ s with places := some (places.getD 0).toNat }, supply, cs)
      | cs => pure (s, supply, cs)
    let cs := match cs with
      | c :: rest => if ['h', 'l', 'L'].contains c then rest else cs
      | [] => cs
    match cs with
    | [] => incomplete
    | '%' :: cs =>
      let (more, supply) ← percentFrom escape size fuel supply cs
      return ('%' :: more, supply)
    | form :: rest =>
      let (v, supply) ← nextOf supply
      let text ← fill escape s form (size - cs.length) v
      let (more, supply) ← percentFrom escape size fuel supply rest
      return (text ++ more, supply)
  | fuel + 1, supply, c :: cs => do
    let (more, supply) ← percentFrom escape size fuel supply cs
    return (c :: more, supply)

/-- A pattern with percent signs filled in with a tuple of values, a table, or one value. -/
def percent (s : String) (safe : Bool) (v : Value) : Eval Value := do
  let supply : Supply := match v with
    | .tuple items => ⟨none, items⟩
    | .group key members => ⟨none, [key, members]⟩
    | .table _ | .list _ | .span .. | .view .. | .absent .. => ⟨some v, [v]⟩
    | v => ⟨none, [v]⟩
  let cs := s.toList
  let (text, left) ← percentFrom safe cs.length (cs.length + 1) supply cs
  if left.table.isNone && !left.rest.isEmpty then
    kind "not all arguments converted during string formatting"
  return .ofChars text safe

/-- How one value is put in between braces. -/
structure Spec where
  fill : Option Char := none
  align : Option Char := none
  sign : Option Char := none
  alt : Bool := false
  width : Nat := 0
  group : Option Char := none
  places : Option Nat := none
  form : Option Char := none

def aligns : List Char := ['<', '>', '=', '^']

/-- A description of a form behind a colon. -/
def specOf (cs : List Char) (sort : String) : Eval Spec := do
  let (s, cs) : Spec × List Char := match cs with
    | f :: a :: rest =>
      if aligns.contains a then ({ fill := some f, align := some a }, rest)
      else if aligns.contains f then ({ align := some f }, a :: rest)
      else ({}, cs)
    | [a] => if aligns.contains a then ({ align := some a }, []) else ({}, cs)
    | [] => ({}, [])
  let (s, cs) : Spec × List Char := match cs with
    | c :: rest => if ['+', '-', ' '].contains c then ({ s with sign := some c }, rest) else (s, cs)
    | [] => (s, cs)
  let (s, cs) : Spec × List Char := match cs with
    | '#' :: rest => ({ s with alt := true }, rest)
    | _ => (s, cs)
  let (s, cs) : Spec × List Char := match cs with
    | '0' :: rest =>
      if s.fill.isNone then
        ({ s with fill := some '0', align := s.align.or (some '=') }, rest)
      else (s, rest)
    | _ => (s, cs)
  let ds := cs.takeWhile Char.isDigit
  let s := { s with width := Text.natOf ds }
  let cs := cs.drop ds.length
  let (s, cs) : Spec × List Char := match cs with
    | c :: rest => if [',', '_'].contains c then ({ s with group := some c }, rest) else (s, cs)
    | [] => (s, cs)
  let (s, cs) ← match cs with
    | '.' :: rest =>
      let ds := rest.takeWhile Char.isDigit
      if ds.isEmpty then value "Format specifier missing precision"
      else pure ({ s with places := some (Text.natOf ds) }, rest.drop ds.length)
    | _ => pure (s, cs)
  let invalid {α : Type} : Eval α :=
    let given := String.ofList cs
    value s!"Invalid format specifier '{given}' for object of type '{sort}'"
  match cs with
  | [] => return s
  | [c] => return { s with form := some c }
  | _ => invalid

/-- Characters on the sides that bring a text to a width. -/
def Spec.padded (s : Spec) (align : Char) (sign body : List Char) : List Char :=
  let fill := s.fill.getD ' '
  let pad := s.width - (sign.length + body.length)
  match s.align.getD align with
  | '<' => sign ++ body ++ List.replicate pad fill
  | '^' => List.replicate (pad / 2) fill ++ sign ++ body ++ List.replicate (pad - pad / 2) fill
  | '=' => sign ++ List.replicate pad fill ++ body
  | _ => List.replicate pad fill ++ sign ++ body

def grouped (size : Nat) (mark : Char) (ds : List Char) : List Char :=
  (ds.reverse.zipIdx.flatMap fun (c, i) =>
    if i != 0 && i % size == 0 then [mark, c] else [c]).reverse

def groupedNumber (mark : Char) (cs : List Char) : List Char :=
  let front := cs.takeWhile Char.isDigit
  grouped 3 mark front ++ cs.drop front.length

def formatted (v : Value) (spec : List Char) : Eval String := do
  if spec.isEmpty then textOf v
  else
    let s ← specOf spec v.sortName
    let unknown {α : Type} (c : Char) : Eval α :=
      value s!"Unknown format code '{c}' for object of type '{v.sortName}'"
    let number (f : Figures) : Eval String := do
      let digits := match s.group with
        | some mark => groupedNumber mark f.digits
        | none => f.digits
      let sign := f.sign (s.sign == some '+') (s.sign == some ' ')
      return String.ofList (s.padded '>' (sign ++ f.mark) digits)
    let float (x : Float) : Eval String := do
      match s.form with
      | some '%' =>
        let f := figuresOf (x * 100.0) 'f' (s.places.getD 6) s.alt
        number { f with digits := f.digits ++ ['%'] }
      | some c =>
        if ['e', 'E', 'f', 'F', 'g', 'G'].contains c then
          number (figuresOf x c (s.places.getD 6) s.alt)
        else if c == 'n' then number (figuresOf x 'g' (s.places.getD 6) s.alt)
        else unknown c
      | none =>
        match s.places with
        | some n => number (figuresOf x 'g' n s.alt)
        | none =>
          number ⟨x.toBits >>> 63 == 1, [], (Decimal.text (Float.abs x)).toList⟩
    match v, v.whole? with
    | .text t _, _ =>
      if let some c := s.form then if c != 's' then unknown c
      if s.sign.isSome then value "Sign not allowed in string format specifier"
      if s.align == some '=' then value "'=' alignment not allowed in string format specifier"
      let cs := match s.places with
        | some n => t.toList.take n
        | none => t.toList
      return String.ofList (s.padded '<' [] cs)
    | .decimal x, _ => float x
    | _, some n =>
      match s.form with
      | some 'c' =>
        return String.ofList (s.padded '<' [] [← numbered n])
      | form =>
        if (form.any fun c => ['e', 'E', 'f', 'F', 'g', 'G', '%'].contains c) then
          float ((← floatOf v).getD 0.0)
        else
          let (base, mark) ← match form with
            | none | some 'd' | some 'n' => pure (10, ([] : List Char))
            | some 'b' => pure (2, ['0', 'b'])
            | some 'o' => pure (8, ['0', 'o'])
            | some 'x' => pure (16, ['0', 'x'])
            | some 'X' => pure (16, ['0', 'X'])
            | some c => unknown c
          if s.places.isSome then value "Precision not allowed in integer format specifier"
          if base == 10 then let _ ← wholeText n
          number ⟨n < 0, if s.alt then mark else [], digitsIn base n.natAbs (form == some 'X')⟩
    | v, _ => kind s!"unsupported format string passed to {v.sortName}.__format__"

/-- The steps behind the first name of a field in braces. -/
inductive Hop where
  | field (name : String)
  | entry (key : String)

def hops : Nat → List Char → Eval (List Hop)
  | 0, _ | _, [] => pure []
  | fuel + 1, '.' :: cs => do
    let name := cs.takeWhile fun c => c != '.' && c != '['
    if name.isEmpty then value "Empty attribute in format string"
    return .field (String.ofList name) :: (← hops fuel (cs.drop name.length))
  | fuel + 1, '[' :: cs => do
    let key := cs.takeWhile (· != ']')
    if key.length == cs.length then value "Missing ']' in format string"
    if key.isEmpty then value "Empty attribute in format string"
    return .entry (String.ofList key) :: (← hops fuel (cs.drop (key.length + 1)))
  | _, _ => value "Only '.' or '[' may follow ']' in format field specifier"

/-- What a step leads to; nothing takes the place of what is not there. -/
def hop (v : Value) : Hop → Eval Value
  | .field name => do
    match ← own? v name with
    | some found => return found
    | none =>
      throw (.misuse .field s!"'{v.sortName}' object has no attribute '{name}'")
  | .entry key => do
    let cs := key.toList
    let index : Value :=
      if !cs.isEmpty && cs.all Char.isDigit then .whole (Text.natOf cs) else .plain key
    match v, ← entry? v index with
    | _, some found => return found
    | .table _, none =>
      throw (.misuse .key key)
    | .list _, none =>
      match index with
      | .whole _ => throw (.misuse .place "list index out of range")
      | _ => kind "list indices must be integers or slices, not str"
    | .text .., none =>
      match index with
      | .whole _ => throw (.misuse .place "string index out of range")
      | _ => kind "string indices must be integers, not 'str'"
    | v, none => kind s!"'{v.sortName}' object is not subscriptable"

/-- The text between a brace and the one that closes it, and what is behind that. -/
def braced : Nat → List Char → Option (List Char × List Char)
  | _, [] => none
  | depth, c :: cs =>
    if c == '\x7d' then
      match depth with
      | 0 => some ([], cs)
      | depth + 1 => (braced depth cs).map fun (body, rest) => (c :: body, rest)
    else
      (braced (if c == '\x7b' then depth + 1 else depth) cs).map fun (body, rest) =>
        (c :: body, rest)

/-- Which fields without a name or a number have been met, or that fields have numbers. -/
inductive Numbering where
  | unknown
  | counted (next : Nat)
  | given

def fieldValue (args : Arguments) (numbering : Numbering) (field : List Char) :
    Eval (Value × Numbering) := do
  let first := field.takeWhile fun c => c != '.' && c != '['
  let atPlace (n : Nat) : Eval Value :=
    match args.places[n]? with
    | some v => pure v
    | none =>
      throw (.misuse .place s!"Replacement index {n} out of range for positional args tuple")
  let (v, numbering) ←
    if first.isEmpty then
      match numbering with
      | .unknown => pure (← atPlace 0, Numbering.counted 1)
      | .counted n => pure (← atPlace n, Numbering.counted (n + 1))
      | .given =>
        value "cannot switch from manual field specification to automatic field numbering"
    else if first.all Char.isDigit then
      match numbering with
      | .counted _ =>
        value "cannot switch from automatic field numbering to manual field specification"
      | _ => pure (← atPlace (Text.natOf first), Numbering.given)
    else
      let name := String.ofList first
      match args.names.lookup name with
      | some v => pure (v, numbering)
      | none => throw (.misuse .key name)
  let v ← (← hops field.length (field.drop first.length)).foldlM hop v
  return (v, numbering)

/-- A pattern with values put in for its fields in braces; forms may hold fields themselves. -/
def bracesFrom (escape : Bool) (args : Arguments) : Nat → Nat → Numbering → List Char →
    Eval (List Char × Numbering)
  | 0, _, numbering, _ => pure ([], numbering)
  | _, _, numbering, [] => pure ([], numbering)
  | fuel + 1, depth, numbering, c :: cs => do
    let keep (c : Char) (rest : List Char) : Eval (List Char × Numbering) := do
      let (more, numbering) ← bracesFrom escape args fuel depth numbering rest
      return (c :: more, numbering)
    match c, cs with
    | '\x7b', '\x7b' :: rest => keep c rest
    | '\x7d', '\x7d' :: rest => keep c rest
    | '\x7d', _ => value "Single '\x7d' encountered in format string"
    | '\x7b', [] => value "Single '\x7b' encountered in format string"
    | '\x7b', cs =>
      match braced 0 cs with
      | none => value "expected '\x7d' before end of string"
      | some (body, rest) =>
        let field := body.takeWhile fun c => c != '!' && c != ':'
        let more := body.drop field.length
        let (conversion, spec) : Option Char × List Char := match more with
          | '!' :: k :: ':' :: spec => (some k, spec)
          | ['!', k] => (some k, [])
          | ':' :: spec => (none, spec)
          | _ => (none, [])
        let (v, numbering) ← fieldValue args numbering field
        let v ← match conversion with
          | some 'r' => pure (Value.plain (← shown v))
          | some 's' => pure (Value.plain (← textOf v))
          | some 'a' => pure (Value.plain (← asciiShown v))
          | some k => value s!"Unknown conversion specifier '{k}'"
          | none => pure v
        let (spec, numbering) ←
          match depth with
          | 0 => pure (spec, numbering)
          | depth + 1 => bracesFrom false args fuel depth numbering spec
        let text ←
          if escape then
            if spec.isEmpty || isSafe v then escaped v
            else pure (escapedText (← formatted v spec))
          else formatted v spec
        let (more, numbering) ← bracesFrom escape args fuel depth numbering rest
        return (text.toList ++ more, numbering)
    | c, cs => keep c cs

def braces (s : String) (safe : Bool) (args : Arguments) : Eval Value := do
  let cs := s.toList
  return .ofChars (← bracesFrom safe args (cs.length + 1) 1 .unknown cs).1 safe

end Eval
end SchemaWrappers.Template
