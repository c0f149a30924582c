import SchemaWrappers.Template.Compare

namespace SchemaWrappers.Template

namespace Value

def textMembers : List String :=
  ["capitalize", "casefold", "center", "count", "encode", "endswith", "expandtabs", "find", "format",
    "format_map", "index", "isalnum", "isalpha", "isascii", "isdecimal", "isdigit", "isidentifier",
    "islower", "isnumeric", "isprintable", "isspace", "istitle", "isupper", "join", "ljust", "lower",
    "lstrip", "maketrans", "partition", "removeprefix", "removesuffix", "replace", "rfind", "rindex",
    "rjust", "rpartition", "rsplit", "rstrip", "split", "splitlines", "startswith", "strip",
    "swapcase", "title", "translate", "upper", "zfill"]

def members : Value → List String
  | text _ safe => if safe then ["__html__", "escape", "striptags", "unescape"] ++ textMembers else textMembers
  | list _ =>
    ["append", "clear", "copy", "count", "extend", "index", "insert", "pop", "remove", "reverse",
      "sort"]
  | table _ =>
    ["clear", "copy", "fromkeys", "get", "items", "keys", "pop", "popitem", "setdefault", "update",
      "values"]
  | tuple _ | group .. | span .. => ["count", "index"]
  | truth _ | whole _ => ["as_integer_ratio", "bit_count", "bit_length", "conjugate"]
  | decimal _ => ["as_integer_ratio", "conjugate", "is_integer"]
  | loop _ => ["changed", "cycle"]
  | cycler _ => ["next", "reset"]
  | function .table => ["fromkeys"]
  | _ => []

end Value

namespace Eval

/-- The next item of a loop, which is kept until the loop gets there. -/
def peekNext (n : Nat) : Eval Value := do
  let r ← round n
  match r.next with
  | .missing =>
    match ← next r.walk with
    | some v =>
      setCell n (.loop { (← round n) with next := v })
      return v
    | none => return .missing
  | v => return v

def loopField (n : Nat) (name : String) : Eval (Option Value) := do
  let r ← round n
  let index := r.index
  match name with
  | "index" => return some (.whole (index + 1))
  | "index0" => return some (.whole index)
  | "first" => return some (.truth (index == 0))
  | "last" => return some (.truth ((← peekNext n) matches .missing))
  | "length" => return some (.whole (← length (.loop n)))
  | "revindex" => return some (.whole ((← length (.loop n)) - index))
  | "revindex0" => return some (.whole ((← length (.loop n)) - (index + 1)))
  | "depth" => return some (.whole (r.depth + 1))
  | "depth0" => return some (.whole r.depth)
  | "previtem" =>
    return some (if index == 0 then .absent true "there is no previous item" else r.before)
  | "nextitem" =>
    match ← peekNext n with
    | .missing => return some (.absent true "there is no next item")
    | v => return some v
  | _ => return none

/-- The names that a table of names holds, by their texts. -/
def spaceField (n : Nat) (name : String) : Eval (Option Value) := do
  return (← entries n).findSome? fun
    | (.text s _, v) => if s == name then some v else none
    | _ => none

def fieldOf (v : Value) (name : String) : Eval (Option Value) := do
  match v with
  | .stub s =>
    return ([("name", s.name), ("comment", s.comment), ("params", s.params)].lookup name).map .plain
  | .loop n => loopField n name
  | .group key members =>
    return [("grouper", key), ("list", members)].lookup name
  | .span start stop step =>
    return [("start", .whole start), ("stop", .whole stop), ("step", .whole step)].lookup name
  | .truth _ | .whole _ =>
    let n := Value.whole (v.whole?.getD 0)
    return [("real", n), ("numerator", n), ("imag", .whole 0), ("denominator", .whole 1)].lookup name
  | .decimal x => return [("real", .decimal x), ("imag", .decimal 0.0)].lookup name
  | .cycler n =>
    match ← cell n with
    | .cycler items i =>
      let found : List (String × Value) :=
        [("current", items[i]?.getD .none), ("items", .tuple items), ("pos", .whole i)]
      return found.lookup name
    | _ => return none
  | .joiner n =>
    match ← cell n with
    | .joiner separator used => return [("sep", separator), ("used", .truth used)].lookup name
    | _ => return none
  | .space n => spaceField n name
  | .routine n =>
    match ← cell n with
    | .routine r =>
      let names := r.body.parameters.map fun p => Value.plain p.name
      let found : List (String × Value) :=
        [("name", (r.body.name.map Value.plain).getD .none), ("arguments", .tuple names),
          ("catch_kwargs", .truth r.names), ("catch_varargs", .truth r.places),
          ("caller", .truth r.caller)]
      return found.lookup name
    | _ => return none
  | .library n =>
    match ← cell n with
    | .library template names _ =>
      if name == "__name__" then return some (.plain template) else return names.lookup name
    | _ => return none
  | .block block n depth =>
    match name with
    | "name" => return some (.plain block)
    | "super" =>
      let bodies := ((← context n).blocks.lookup block).getD []
      if depth + 1 < bodies.length then return some (.block block n (depth + 1))
      else return some (.absent true s!"there is no parent block called {Text.quote block}.")
    | _ => return none
  | .absent _ message => if name.startsWith "__" then return none else absent message
  | .sort s => if name == "__name__" then return some (.plain s) else return none
  | .function f =>
    if name == "__name__" then return some (.plain (Value.Builtin.sortName f)) else return none
  | _ => return none

def own? (v : Value) (name : String) : Eval (Option Value) := do
  match ← fieldOf v name with
  | some found => return some found
  | none =>
    if v.members.contains name then return some (.member v name)
    else if name == "__class__" && !(v matches .absent ..) then return some (.sort v.sortName)
    else return none

def entry? (v index : Value) : Eval (Option Value) := do
  match v, index.whole? with
  | .absent _ message, _ => absent message
  | .table n, _ =>
    try lookUp (← entries n) index
    catch
      | .misuse .kind _ => return none
      | e => throw e
  | .list n, some i => return Value.at? (← items n).toList i
  | .text s safe, some i => return (Value.at? s.toList i).map fun c => .text c.toString safe
  | .span start stop step, some i =>
    let n := Value.spanLength start stop step
    let i := if i < 0 then i + n else i
    return if 0 ≤ i && i < n then some (Value.spanItem start step i.toNat) else none
  | .self n, _ =>
    match index with
    | .text name _ =>
      let bodies := ((← context n).blocks.lookup name).getD []
      return if bodies.isEmpty then none else some (.block name n 0)
    | _ => return none
  | v, some i => return v.tuple?.bind (Value.at? · i)
  | _, none => return none

def noField (v : Value) (name : String) : Value :=
  .absent true s!"{Text.quote v.kindName} has no attribute {Text.quote name}"

def noEntry (v index : Value) : Eval Value := do
  match index with
  | .text name _ => return noField v name
  | index =>
    let index ← shown index
    return .absent true s!"{v.kindName} has no element {index}"

def getField (v : Value) (name : String) : Eval Value := do
  match ← own? v name with
  | some found => return found
  | none =>
    match ← entry? v (.plain name) with
    | some found => return found
    | none => return noField v name

def getEntry (v index : Value) : Eval Value := do
  match ← entry? v index, index with
  | some found, _ => return found
  | none, .text name _ =>
    match ← own? v name with
    | some found => return found
    | none => return noField v name
  | none, index => noEntry v index

/-- What lies along a path of entries; where an entry is absent, the fallback takes its place. -/
def along (path : List Value) (fallback : Option Value) (v : Value) : Eval Value :=
  path.foldlM (fun v step => do
    match ← getEntry v step, fallback with
    | .absent .., some f => return f
    | found, _ => return found) v

/-- The steps of a path: names and numbers with full stops between them, or one key. -/
def pathOf : Value → List Value
  | .none => []
  | .text s _ =>
    (s.splitOn ".").map fun part =>
      if !part.isEmpty && part.toList.all Text.isDecimalDigit then
        .whole (Text.natOf (part.toList.map Text.plainDigit))
      else .plain part
  | v => [v]

def bound : Value → Eval (Option Int)
  | .none => pure none
  | v => match v.whole? with
    | some n => pure (some n)
    | none => kind "slice indices must be integers or None or have an __index__ method"

/-- The places from `start` on in steps, as long as they are before `stop`, or behind it if the
steps go back. -/
def places (start stop step : Int) : List Int :=
  (List.range (Value.spanLength start stop step)).map fun (i : Nat) => start + (i : Int) * step

/-- The first place of a slice of so many entries, and the one where it ends; a negative bound
counts from the end. -/
def sliceEnds (length : Nat) (start stop : Option Int) (step : Int) : Int × Int :=
  let low : Int := if 0 < step then 0 else -1
  let high : Int := if 0 < step then length else length - 1
  let bound (n : Int) : Int := max low (min high (if n < 0 then n + length else n))
  ((start.map bound).getD (if 0 < step then low else high),
    (stop.map bound).getD (if 0 < step then high else low))

def sliceOf (items : List α) (start stop : Option Int) (step : Int) : List α :=
  let (first, last) := sliceEnds items.length start stop step
  let items := items.toArray
  (places first last step).filterMap fun i => items[i.toNat]?

def getSlice (v start stop step : Value) : Eval Value := do
  let steps : Eval (Option Int × Option Int × Int) := do
    let step := (← bound step).getD 1
    if step == 0 then value "slice step cannot be zero"
    let start ← bound start
    return (start, ← bound stop, step)
  match v with
  | .absent _ message => absent message
  | .text s safe =>
    let (start, stop, step) ← steps
    return .ofChars (sliceOf s.toList start stop step) safe
  | .list n =>
    let (start, stop, step) ← steps
    newList (sliceOf (← items n).toList start stop step)
  | .span a b c =>
    let (start, stop, step) ← steps
    let (first, last) := sliceEnds (Value.spanLength a b c) start stop step
    return .span (a + first * c) (a + last * c) (c * step)
  | .table _ => kind "unhashable type: 'slice'"
  | v =>
    match v.tuple? with
    | some items =>
      let (start, stop, step) ← steps
      return .tuple (sliceOf items start stop step)
    | none => kind s!"'{v.sortName}' object is not subscriptable"

end Eval
end SchemaWrappers.Template
