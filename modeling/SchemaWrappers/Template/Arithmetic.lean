import SchemaWrappers.Template.Format

namespace SchemaWrappers.Template.Eval

def operationMark : Operation → String
  | .add => "+"
  | .subtract => "-"
  | .multiply => "*"
  | .divide => "/"
  | .quotient => "//"
  | .remainder => "%"
  | .power => "** or pow()"

def unfit (op : Operation) (a b : Value) : Eval α :=
  kind s!"unsupported operand type(s) for {operationMark op}: '{a.sortName}' and '{b.sortName}'"

def divisionByZero (message : String) : Eval α := throw (.misuse .divisionByZero message)

def overflow (message : String) : Eval α := throw (.misuse .overflow message)

def powerDecimal (x y : Float) : Eval Value := do
  if x == 0.0 && y < 0.0 then divisionByZero "0.0 cannot be raised to a negative power"
  let z := Float.pow x y
  if z.isInf && !x.isInf && !y.isInf then overflow "(34, 'Numerical result out of range')"
  return .decimal z

def powerLimit : Nat := 100000000

def operateWhole (op : Operation) (m n : Int) : Eval Value := do
  match op with
  | .add => return .whole (m + n)
  | .subtract => return .whole (m - n)
  | .multiply => return .whole (m * n)
  | .divide =>
    if n == 0 then divisionByZero "division by zero"
    match Decimal.ratio? m.natAbs n.natAbs with
    | some x => return .decimal (if (m < 0) != (n < 0) then -x else x)
    | none => overflow "integer division result too large for a float"
  | .quotient =>
    if n == 0 then divisionByZero "integer division or modulo by zero"
    return .whole (Int.fdiv m n)
  | .remainder =>
    if n == 0 then divisionByZero "integer modulo by zero"
    return .whole (Int.fmod m n)
  | .power =>
    if 0 ≤ n then
      if powerLimit < (m.natAbs.log2 + 1) * n.toNat && 1 < m.natAbs then
        throw (.misuse .state "")
      let p := Nat.pow m.natAbs n.toNat
      return .whole (if m < 0 && n % 2 == 1 then -(p : Int) else p)
    else
      match ← floatOf (.whole m), ← floatOf (.whole n) with
      | some x, some y => powerDecimal x y
      | _, _ => return .none

def operateDecimal (op : Operation) (x y : Float) : Eval Value := do
  match op with
  | .add => return .decimal (x + y)
  | .subtract => return .decimal (x - y)
  | .multiply => return .decimal (x * y)
  | .divide =>
    if y == 0.0 then divisionByZero "float division by zero"
    return .decimal (x / y)
  | .quotient =>
    if y == 0.0 then divisionByZero "float floor division by zero"
    return .decimal (Decimal.quotient x y)
  | .remainder =>
    if y == 0.0 then divisionByZero "float modulo"
    return .decimal (Decimal.remainder x y)
  | .power => powerDecimal x y

def repeatedItems (items : List α) (n : Int) : List α := (List.replicate n.toNat items).flatten

/-- The sum of two texts: mark-up takes other texts up as mark-up. -/
def addTexts (s : String) (safe : Bool) (t : String) (safe' : Bool) : Value :=
  match safe, safe' with
  | true, false => .text (s ++ escapedText t) true
  | false, true => .text (escapedText s ++ t) true
  | safe, _ => .text (s ++ t) safe

def isSequence : Value → Bool
  | .text .. | .list _ | .tuple _ | .group .. => true
  | _ => false

def multiplySequence (v times : Value) : Eval Value := do
  if let .absent _ message := times then absent message
  match times.whole?, v with
  | none, .text _ true => kind s!"'{times.sortName}' object cannot be interpreted as an integer"
  | none, _ => kind s!"can't multiply sequence by non-int of type '{times.sortName}'"
  | some n, .text s safe => return .ofChars (repeatedItems s.toList n) safe
  | some n, .list m => newList (repeatedItems (← items m).toList n)
  | some n, v => return .tuple (repeatedItems (v.tuple?.getD []) n)

def operate (op : Operation) (a b : Value) : Eval Value := do
  match a.whole?, b.whole? with
  | some m, some n => operateWhole op m n
  | _, _ =>
    match op, a, b with
    | .remainder, .text s safe, b => percent s safe b
    | _, .absent _ message, _ | _, _, .absent _ message => absent message
    | .add, .text s safe, .text t safe' => return addTexts s safe t safe'
    | .add, .text _ true, _ => unfit op a b
    | .add, .text .., _ => kind s!"can only concatenate str (not \"{b.sortName}\") to str"
    | .add, .list m, .list n => newList ((← items m) ++ (← items n)).toList
    | .add, .list _, _ => kind s!"can only concatenate list (not \"{b.sortName}\") to list"
    | op, a, b =>
      match op, a.tuple?, b.tuple? with
      | .add, some as, some bs => return .tuple (as ++ bs)
      | .add, some _, none => kind s!"can only concatenate tuple (not \"{b.sortName}\") to tuple"
      | _, _, _ =>
        if op == .multiply && isSequence a then multiplySequence a b
        else if op == .multiply && isSequence b then multiplySequence b a
        else
          match a, b, a.whole?.isSome || a matches .decimal _, b.whole?.isSome || b matches .decimal _ with
          | _, _, true, true =>
            match ← floatOf a, ← floatOf b with
            | some x, some y => operateDecimal op x y
            | _, _ => unfit op a b
          | _, _, _, _ => unfit op a b

def minus (v : Value) : Eval Value := do
  match v with
  | .absent _ message => absent message
  | .decimal x => return .decimal (-x)
  | v =>
    match v.whole? with
    | some n => return .whole (-n)
    | none => kind s!"bad operand type for unary -: '{v.sortName}'"

def plus (v : Value) : Eval Value := do
  match v with
  | .absent _ message => absent message
  | .decimal x => return .decimal x
  | v =>
    match v.whole? with
    | some n => return .whole n
    | none => kind s!"bad operand type for unary +: '{v.sortName}'"

end SchemaWrappers.Template.Eval
