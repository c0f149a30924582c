import SchemaWrappers.Template.Members

namespace SchemaWrappers.Template.Filters
open Eval Filtering

def unitText (n : Nat) : List Char := '\\' :: 'u' :: Text.hexDigits 4 n

def jsonChar (c : Char) : List Char :=
  let n := c.toNat
  match c with
  | '"' => ['\\', '"']
  | '\\' => ['\\', '\\']
  | '\n' => ['\\', 'n']
  | '\r' => ['\\', 'r']
  | '\t' => ['\\', 't']
  | '\x08' => ['\\', 'b']
  | '\x0c' => ['\\', 'f']
  | c =>
    if 0x20 ≤ n && n < 0x7f then [c]
    else if n < 0x10000 then unitText n
    else unitText (0xd800 + (n - 0x10000) / 0x400) ++ unitText (0xdc00 + (n - 0x10000) % 0x400)

def jsonQuoted (s : String) : List Char := '"' :: s.toList.flatMap jsonChar ++ ['"']

def jsonDecimal (x : Float) : String :=
  if x.isNaN then "NaN"
  else if x.isInf then (if x < 0.0 then "-Infinity" else "Infinity")
  else Decimal.text x

def jsonKey (v : Value) : Eval String := do
  match v with
  | .text s _ => return s
  | .none => return "null"
  | .truth b => return if b then "true" else "false"
  | .whole n => wholeText n
  | .decimal x => return jsonDecimal x
  | v => kind s!"keys must be str, int, float, bool or None, not {v.sortName}"

def jsonBody (front back : Char) (margin : Option (List Char)) (level : Nat)
    (items : List (List Char)) : List Char :=
  if items.isEmpty then [front, back]
  else
    match margin with
    | none => front :: [',', ' '].intercalate items ++ [back]
    | some m =>
      let line (n : Nat) : List Char := '\n' :: (List.replicate n m).flatten
      front :: line (level + 1) ++ (',' :: line (level + 1)).intercalate items ++ line level ++
        [back]

def json (margin : Option (List Char)) (inside : List Nat) : Nat → Nat → Value → Eval (List Char)
  | 0, _, _ => throw (.misuse .depth "maximum recursion depth exceeded while encoding a JSON object")
  | depth + 1, level, v => do
    let within (n : Nat) : Eval (List Nat) := do
      if inside.contains n then value "Circular reference detected" else return n :: inside
    let array (inside : List Nat) (vs : List Value) : Eval (List Char) := do
      return jsonBody '[' ']' margin level (← vs.mapM (json margin inside depth (level + 1)))
    match v with
    | .none => return "null".toList
    | .truth b => return (if b then "true" else "false").toList
    | .whole n => return (← wholeText n).toList
    | .decimal x => return (jsonDecimal x).toList
    | .text s _ => return jsonQuoted s
    | .list n => array (← within n) (← items n).toList
    | .table n =>
      let inside ← within n
      let es ← sortBy (fun a b => less a.1 b.1) (← entries n)
      let items ← es.mapM fun (k, w) => do
        return jsonQuoted (← jsonKey k) ++ ':' :: ' ' :: (← json margin inside depth (level + 1) w)
      return jsonBody '\x7b' '\x7d' margin level items
    | v =>
      match v.tuple? with
      | some vs => array inside vs
      | none => kind s!"Object of type {v.sortName} is not JSON serializable"

/-- Signs of mark-up written as numbers. -/
def withoutMarkup (cs : List Char) : List Char :=
  cs.flatMap fun c => if ['<', '>', '&', '\''].contains c then unitText c.toNat else [c]

def toJson (v indent : Value) : Eval Value := do
  let margin ← match indent with
    | .none => pure none
    | .text s _ => pure (some s.toList)
    | indent => do pure (some (List.replicate (← index indent).toNat ' '))
  return .ofChars (withoutMarkup (← json margin [] 900 0 v)) true

/-- A value with the keys of its tables in order, over several lines if it does not fit into what is
left of the first of them. -/
def laidOut : Nat → Nat → Nat → Value → Eval (List Char)
  | 0, _, _, v => return (← shown v).toList
  | depth + 1, column, behind, v => do
    let whole ← ordered depth v
    let flat := (← shown whole).toList
    if column + flat.length + behind ≤ 80 then return flat
    let lines (front back : String) (rows : List (List Char)) : List Char :=
      front.toList ++ (',' :: '\n' :: List.replicate (column + 1) ' ').intercalate rows ++ back.toList
    match v with
    | .list n => return lines "[" "]" (← (← items n).toList.mapM (laidOut depth (column + 1) 1))
    | .table n =>
      let es ← sortBy (fun a b => less a.1 b.1) (← entries n)
      let rows ← es.mapM fun (k, w) => do
        let key := (← shown k).toList ++ [':', ' ']
        return key ++ (← laidOut depth (column + 1 + key.length) 1 w)
      return lines "\x7b" "\x7d" rows
    | v =>
      match v.tuple? with
      | some [a] => return lines "(" ",)" [← laidOut depth (column + 1) 2 a]
      | some vs => return lines "(" ")" (← vs.mapM (laidOut depth (column + 1) 1))
      | none => return flat
where
  /-- A value with the keys of its tables in order. -/
  ordered : Nat → Value → Eval Value
    | 0, v => pure v
    | depth + 1, v => do
      match v with
      | .list n => newList (← (← items n).toList.mapM (ordered depth))
      | .tuple vs => return .tuple (← vs.mapM (ordered depth))
      | .table n =>
        let es ← try sortBy (fun a b => less a.1 b.1) (← entries n)
          catch _ => entries n
        newTable (← es.mapM fun (k, w) => do return (k, ← ordered depth w))
      | v => return v

def jsonTexts : List (String × Filtering) :=
  [("tojson", { owner := "do_tojson", hidden := ["eval_ctx"]
                parameters := [required "value", optionalNone "indent"]
                run := fun _ v => toJson (v 0) (v 1) }),
    ("pprint", { owner := "do_pprint", run := fun _ v => do
      return .ofChars (← laidOut 50 0 0 (v 0)) false })]

end SchemaWrappers.Template.Filters
