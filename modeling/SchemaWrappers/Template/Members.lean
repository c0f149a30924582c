import SchemaWrappers.Template.Filler

namespace SchemaWrappers.Template.Eval

def placeOf? (items : List Value) (v : Value) (start stop : Int) : Eval (Option Nat) := do
  let n : Int := items.length
  let fix (i : Int) : Int := if i < 0 then max 0 (i + n) else i
  let (start, stop) := (fix start, fix stop)
  let found ← items.zipIdx.findM? fun (item, i) => do
    if start ≤ i && (i : Int) < stop then sameOrEqual item v else return false
  return found.map (·.2)

def countOf (items : List Value) (v : Value) : Eval Nat := do
  return (← items.filterM fun item => sameOrEqual item v).length

def indexMember (items : List Value) (args : Arguments) (owner complaint : String) : Eval Value := do
  let vs ← expectBetween owner "index" 1 3 args
  let v := vs.head?.getD .none
  match ← placeOf? items v (← indexOr vs 1 0) (← indexOr vs 2 items.length) with
  | some i => return .whole i
  | none =>
    if complaint.isEmpty then
      let shown ← shown v
      value s!"{shown} is not in list"
    else value complaint

def listMember (n : Nat) (name : String) (args : Arguments) : Eval Value := do
  let owner := "list." ++ name
  let xs := (← items n).toList
  let set (xs : List Value) : Eval Value := do
    setCell n (.list xs.toArray)
    return .none
  match name with
  | "append" => set (xs ++ [← expectOne owner args])
  | "extend" => set (xs ++ (← itemsOf (← expectOne owner args)))
  | "insert" =>
    let vs ← expectBetween owner name 2 2 args
    let i ← indexOr vs 0 0
    let i := if i < 0 then (max 0 (i + xs.length)).toNat else i.toNat
    set (xs.take i ++ [vs[1]?.getD .none] ++ xs.drop i)
  | "pop" =>
    let vs ← expectBetween owner name 0 1 args
    let i ← indexOr vs 0 (-1)
    if xs.isEmpty then throw (.misuse .place "pop from empty list")
    let i := if i < 0 then i + xs.length else i
    match if i < 0 then none else xs[i.toNat]? with
    | some v =>
      let _ ← set (xs.eraseIdx i.toNat)
      return v
    | none => throw (.misuse .place "pop index out of range")
  | "remove" =>
    match ← placeOf? xs (← expectOne owner args) 0 xs.length with
    | some i => set (xs.eraseIdx i)
    | none => value "list.remove(x): x not in list"
  | "clear" =>
    expectNone owner args
    set []
  | "reverse" =>
    expectNone owner args
    set xs.reverse
  | "copy" =>
    expectNone owner args
    newList xs
  | "count" => return .whole (← countOf xs (← expectOne owner args))
  | "index" => indexMember xs args owner ""
  | _ =>
    if !args.places.isEmpty then kind "sort() takes no positional arguments"
    let reverse ← holds ((args.names.lookup "reverse").getD (.truth false))
    if reverse then set (← sortBy less xs.reverse).reverse else set (← sortBy less xs)

def pairOf (v : Value) (place : Nat) : Eval (Value × Value) := do
  let items ← try itemsOf v
    catch
      | .misuse .kind _ =>
        kind s!"cannot convert dictionary update sequence element #{place} to a sequence"
      | e => throw e
  match items with
  | [k, w] => return (k, w)
  | items =>
    value (s!"dictionary update sequence element #{place} has length {items.length}; " ++
      "2 is required")

/-- Entries with those of a table or of a list of pairs. -/
def updated (es : List (Value × Value)) (v : Value) : Eval (List (Value × Value)) := do
  let pairs ← match v with
    | .table n => entries n
    | v => (← itemsOf v).zipIdx.mapM fun (item, i) => pairOf item i
  pairs.foldlM (fun es p => withEntry es p.1 p.2) es

/-- Entries with arguments: a table or pairs, and names. -/
def updatedWith (owner : String) (es : List (Value × Value)) (args : Arguments) :
    Eval (List (Value × Value)) := do
  let n := args.places.length
  if 1 < n then kind s!"{owner} expected at most 1 argument, got {n}"
  let es ← match args.places.head? with
    | some v => updated es v
    | none => pure es
  args.names.foldlM (fun es (p : String × Value) => withEntry es (.plain p.1) p.2) es

def newTable (es : List (Value × Value)) : Eval Value := return .table (← addCell (.table es))

def tableFromKeys (args : Arguments) : Eval Value := do
  let vs ← expectBetween "dict.fromkeys" "fromkeys" 1 2 args
  let keys ← itemsOf (vs.head?.getD .none)
  let v := vs[1]?.getD .none
  newTable (← keys.foldlM (fun es k => withEntry es k v) [])

def tableMember (n : Nat) (name : String) (args : Arguments) : Eval Value := do
  let owner := "dict." ++ name
  let es ← entries n
  let set (es : List (Value × Value)) : Eval Unit := setCell n (.table es)
  match name with
  | "keys" =>
    expectNone owner args
    return .view .keys n
  | "values" =>
    expectNone owner args
    return .view .values n
  | "items" =>
    expectNone owner args
    return .view .items n
  | "get" =>
    let vs ← expectBetween owner name 1 2 args
    return (← lookUp es (vs.head?.getD .none)).getD (vs[1]?.getD .none)
  | "pop" =>
    let vs ← expectBetween owner name 1 2 args
    let key := vs.head?.getD .none
    match ← lookUp es key, vs[1]? with
    | some v, _ =>
      set (← withoutEntry es key)
      return v
    | none, some fallback => return fallback
    | none, none => throw (.misuse .key (← textOf key))
  | "popitem" =>
    expectNone owner args
    match es.getLast? with
    | some (k, v) =>
      set es.dropLast
      return .tuple [k, v]
    | none => throw (.misuse .key "popitem(): dictionary is empty")
  | "setdefault" =>
    let vs ← expectBetween owner name 1 2 args
    let key := vs.head?.getD .none
    match ← lookUp es key with
    | some v => return v
    | none =>
      let v := vs[1]?.getD .none
      set (es ++ [(key, v)])
      return v
  | "update" =>
    set (← updatedWith "update" es args)
    return .none
  | "clear" =>
    expectNone owner args
    set []
    return .none
  | "copy" =>
    expectNone owner args
    newTable es
  | _ => tableFromKeys args

def wholeMember (n : Int) (name : String) (args : Arguments) : Eval Value := do
  expectNone ("int." ++ name) args
  match name with
  | "bit_length" => return .whole (if n == 0 then 0 else n.natAbs.log2 + 1)
  | "bit_count" => return .whole ((Nat.toDigits 2 n.natAbs).count '1')
  | "as_integer_ratio" => return .tuple [.whole n, .whole 1]
  | _ => return .whole n

def decimalMember (x : Float) (name : String) (args : Arguments) : Eval Value := do
  expectNone ("float." ++ name) args
  match name with
  | "is_integer" => return .truth (!x.isNaN && !x.isInf && x.floor == x)
  | "as_integer_ratio" =>
    if x.isNaN then value "cannot convert NaN to integer ratio"
    if x.isInf then throw (.misuse .overflow "cannot convert Infinity to integer ratio")
    let (m, p) := Decimal.exact x
    if 0 ≤ p then return .tuple [.whole (m * ((1 <<< p.toNat : Nat) : Int)), .whole 1]
    else
      let d : Nat := 1 <<< (-p).toNat
      let g := Nat.gcd m.natAbs d
      return .tuple [.whole (Int.tdiv m g), .whole (d / g : Nat)]
  | _ => return .decimal x

def loopMember (n : Nat) (name : String) (args : Arguments) : Eval Value := do
  let r ← round n
  if name == "cycle" then
    if args.places.isEmpty then kind "no items for cycling given"
    return (args.places[r.index.toNat % args.places.length]?).getD .none
  else
    let changed ← match r.noted with
      | none => pure true
      | some before => do
        let same ← if before.length == args.places.length then
            allEqual equal before args.places else pure false
        pure !same
    if changed then setCell n (.loop { (← round n) with noted := some args.places })
    return .truth changed

def cyclerMember (n : Nat) (name : String) : Eval Value := do
  match ← cell n with
  | .cycler items i =>
    if name == "reset" then
      setCell n (.cycler items 0)
      return .none
    else
      setCell n (.cycler items (if items.isEmpty then 0 else (i + 1) % items.length))
      return items[i]?.getD .none
  | _ => return .none

def callMember (owner : Value) (name : String) (args : Arguments) : Eval Value := do
  match owner with
  | .text s safe => textMember s safe name args
  | .list n => listMember n name args
  | .table n => tableMember n name args
  | .loop n => loopMember n name args
  | .cycler n => cyclerMember n name
  | .decimal x => decimalMember x name args
  | .function .table => tableFromKeys args
  | .span start stop step =>
    let items := (List.range (Value.spanLength start stop step)).map (Value.spanItem start step)
    if name == "count" then return .whole (← countOf items (← expectOne "range.count" args))
    else
      let v ← expectOne "range.index" args
      let shown ← shown v
      indexMember items args "range.index" s!"{shown} is not in range"
  | v =>
    match v.whole?, v.tuple? with
    | some n, _ => wholeMember n name args
    | none, some items =>
      if name == "count" then return .whole (← countOf items (← expectOne "tuple.count" args))
      else indexMember items args "tuple.index" "tuple.index(x): x not in tuple"
    | none, none => kind s!"'{v.sortName}' object is not callable"

def callBuiltin (f : Builtin) (args : Arguments) : Eval Value := do
  match f with
  | .range =>
    expectPlaces "range" args
    let n := args.places.length
    if n == 0 then kind "range expected at least 1 argument, got 0"
    if 3 < n then kind s!"range expected at most 3 arguments, got {n}"
    match ← args.places.mapM index with
    | [stop] => return .span 0 stop 1
    | [start, stop] => return .span start stop 1
    | start :: stop :: step :: _ =>
      if step == 0 then value "range() arg 3 must not be zero"
      return .span start stop step
    | [] => return .none
  | .table => newTable (← updatedWith "dict" [] args)
  | .space => do
    match ← newTable (← updatedWith "dict" [] args) with
    | .table n => return .space n
    | v => return v
  | .cycler =>
    if args.places.isEmpty then
      throw (.misuse .state "at least one item has to be provided")
    return .cycler (← addCell (.cycler args.places 0))
  | .joiner =>
    let separator := (args.places.head?).or (args.names.lookup "sep") |>.getD (.plain ", ")
    return .joiner (← addCell (.joiner separator false))
  | .filler => filler args

end SchemaWrappers.Template.Eval
