import SchemaWrappers.Template.Members

namespace SchemaWrappers.Template.Filters
open Eval Filtering

/-- What items are put in order by: what lies along each of several paths. -/
def sortKey (path : Value) (exact : Bool) (item : Value) : Eval Value := do
  let paths := match path with
    | .text s _ => (s.splitOn ",").map fun part => pathOf (.plain part)
    | v => [pathOf v]
  let keys ← paths.mapM fun path => do
    let found ← along path none item
    return if exact then found else caseless found
  return .tuple keys

def sorted (items : List Value) (key : Value → Eval Value) (reverse : Bool) : Eval (List Value) := do
  let keyed ← items.mapM fun item => do return (← key item, item)
  let keyed := if reverse then keyed.reverse else keyed
  let done ← sortBy (fun a b => less a.1 b.1) keyed
  let done := done.map (·.2)
  return if reverse then done.reverse else done

def sort (v reverse exact path : Value) : Eval Value := do
  let (reverse, exact) := (← holds reverse, ← holds exact)
  newList (← sorted (← itemsOf v) (sortKey path exact) reverse)

/-- The entries of a table in order of their keys or their values. -/
def sortTable (v exact by_ reverse : Value) : Eval Value := do
  let byValue ← match by_ with
    | .text "key" _ => pure false
    | .text "value" _ => pure true
    | _ => throw (.template "You can only sort by either \"key\" or \"value\"")
  let es ← match v with
    | .table n => entries n
    | .absent _ message => absent message
    | v => throw (.misuse .field s!"'{v.sortName}' object has no attribute 'items'")
  let (exact, reverse) := (← holds exact, ← holds reverse)
  let key (item : Value) : Eval Value := do
    match item with
    | .tuple [k, w] =>
      let subject := if byValue then w else k
      return if exact then subject else caseless subject
    | v => return v
  newList (← sorted (es.map fun e => .tuple [e.1, e.2]) key reverse)

def grouped (key : Value → Eval Value) : Nat → List Value → Eval (List (Value × List Value))
  | 0, _ | _, [] => pure []
  | fuel + 1, item :: items => do
    let k ← key item
    let (run, rest) ← splitRun k items
    return (k, item :: run) :: (← grouped key fuel rest)
where
  splitRun (k : Value) : List Value → Eval (List Value × List Value)
    | [] => pure ([], [])
    | item :: items => do
      if ← sameOrEqual k (← key item) then
        let (run, rest) ← splitRun k items
        return (item :: run, rest)
      else return ([], item :: items)

def groupBy (v path fallback exact : Value) : Eval Value := do
  let exact ← holds exact
  let path := pathOf path
  let fallback := match fallback with
    | .none => none
    | f => some f
  let plain (item : Value) : Eval Value := along path fallback item
  let key (item : Value) : Eval Value := do
    let found ← plain item
    return if exact then found else caseless found
  let items ← sorted (← itemsOf v) key false
  let groups ← grouped key (items.length + 1) items
  newList (← groups.mapM fun (k, members) => do
    let k ← match members with
      | first :: _ => if exact then pure k else plain first
      | [] => pure k
    return .group k (← newList members))

/-- The item whose key is before, or behind, those of all others. -/
def extreme (order : Comparison) (v exact path : Value) : Eval Value := do
  let exact ← holds exact
  let key (item : Value) : Eval Value := do
    let found ← along (pathOf path) none item
    return if exact then found else caseless found
  match ← itemsOf v with
  | [] => return .absent true "No aggregated item, sequence was empty."
  | first :: rest =>
    let (best, _) ← rest.foldlM (fun (best, k) item => do
      let l ← key item
      if ← ordered order l k then return (item, l) else return (best, k)) (first, ← key first)
    return best

def sum (v path start : Value) : Eval Value := do
  if start matches .text .. then kind "sum() can't sum strings [use ''.join(seq) instead]"
  (← itemsOf v).foldlM (fun total item => do
    let item ← match path with
      | .none => pure item
      | path => along (pathOf path) none item
    operate .add total item) start

def join (context : Nat) (v separator path : Value) : Eval Value := do
  let items ← itemsOf v
  let items ← match path with
    | .none => pure items
    | path => items.mapM (along (pathOf path) none)
  if !(← escapes context) then
    let d ← textOf separator
    return .plain (d.intercalate (← items.mapM textOf))
  else
    let mark := isSafe separator || items.any isSafe
    let (d, _) ← softText separator
    if mark then
      let d := if isSafe separator then d else escapedText d
      return .text (d.intercalate (← items.mapM escaped)) true
    else return .plain (d.intercalate (← items.mapM textOf))

def first (v : Value) : Eval Value := do
  match ← next (← walkOf v) with
  | some item => return item
  | none => return .absent true "No first item, sequence was empty."

def last (v : Value) : Eval Value := do
  match ← backward v with
  | .walk _ n =>
    match ← next n with
    | some item => return item
    | none => return .absent true "No last item, sequence was empty."
  | v => return v

/-- An item that chance picks; its place is looked up as a key in a table. -/
def random (v : Value) : Eval Value := do
  match ← Eval.length v with
  | 0 => return .absent true "No random item, sequence was empty."
  | n =>
    let i ← draw n
    match v with
    | .table n =>
      match ← lookUp (← entries n) (.whole i) with
      | some w => return w
      | none => throw (.misuse .key (toString i))
    | .view .. | .loop _ => kind s!"'{v.sortName}' object is not subscriptable"
    | v => getEntry v (.whole i)

def reverse (v : Value) : Eval Value := do
  match v with
  | .text s safe => return .ofChars s.toList.reverse safe
  | v =>
    try backward v
    catch
      | .misuse .kind _ =>
        try newList (← itemsOf v).reverse
        catch
          | .misuse .kind _ => throw (.template "argument must be iterable")
          | e => throw e
      | e => throw e

def default (v fallback empty : Value) : Eval Value := do
  match v with
  | .absent .. => return fallback
  | v => if (← holds empty) && !(← holds v) then return fallback else return v

def generator (way : Way) : Eval Value := newWalk "generator" way

def sequences : List (String × Filtering) :=
  let default : Filtering :=
    { owner := "do_default"
      parameters := [required "value", optional "default_value" (.plain ""), flag "boolean" false]
      run := fun _ v => default (v 0) (v 1) (v 2) }
  let length : Filtering :=
    { owner := "len", run := fun _ v => return .whole (← length (v 0)) }
  let extreme (owner : String) (order : Comparison) : Filtering :=
    { owner, hidden := ["environment"]
      parameters := [required "value", flag "case_sensitive" false, optionalNone "attribute"]
      run := fun _ v => extreme order (v 0) (v 1) (v 2) }
  let ofEnvironment (owner parameter : String) (f : Value → Eval Value) : Filtering :=
    { owner, hidden := ["environment"], parameters := [required parameter], run := fun _ v => f (v 0) }
  [("default", default), ("d", default), ("length", length), ("count", length),
    ("min", extreme "do_min" .less), ("max", extreme "do_max" .more),
    ("first", ofEnvironment "sync_do_first" "seq" first),
    ("last", ofEnvironment "do_last" "seq" last),
    ("random", { owner := "do_random", hidden := ["context"], parameters := [required "seq"]
                 run := fun _ v => random (v 0) }),
    ("list", { owner := "sync_do_list", run := fun _ v => do newList (← itemsOf (v 0)) }),
    ("reverse", { owner := "do_reverse", run := fun _ v => reverse (v 0) }),
    ("attr", { owner := "do_attr", hidden := ["environment"]
               parameters := [required "obj", required "name"]
               run := fun _ v => do
                 let name ← match v 1 with
                   | .text s _ => pure s
                   | .absent _ message => absent message
                   | v => kind s!"attribute name must be string, not '{v.sortName}'"
                 return (← own? (v 0) name).getD (noField (v 0) name) }),
    ("join", { owner := "sync_do_join", hidden := ["eval_ctx"]
               parameters := [required "value", optional "d" (.plain ""), optionalNone "attribute"]
               run := fun c v => join c (v 0) (v 1) (v 2) }),
    ("sort", { owner := "do_sort", hidden := ["environment"]
               parameters := [required "value", flag "reverse" false, flag "case_sensitive" false,
                 optionalNone "attribute"]
               run := fun _ v => sort (v 0) (v 1) (v 2) (v 3) }),
    ("dictsort", { owner := "do_dictsort"
                   parameters := [required "value", flag "case_sensitive" false,
                     optional "by" (.plain "key"), flag "reverse" false]
                   run := fun _ v => sortTable (v 0) (v 1) (v 2) (v 3) }),
    ("groupby", { owner := "sync_do_groupby", hidden := ["environment"]
                  parameters := [required "value", required "attribute", optionalNone "default",
                    flag "case_sensitive" false]
                  run := fun _ v => groupBy (v 0) (v 1) (v 2) (v 3) }),
    ("sum", { owner := "sync_do_sum", hidden := ["environment"]
              parameters := [required "iterable", optionalNone "attribute",
                optional "start" (.whole 0)]
              run := fun _ v => sum (v 0) (v 1) (v 2) }),
    ("unique", { owner := "sync_do_unique", hidden := ["environment"]
                 parameters := [required "value", flag "case_sensitive" false,
                   optionalNone "attribute"]
                 run := fun _ v => do
                   generator (.gathering (.distinct (v 0) (← holds (v 1)) (pathOf (v 2)))) }),
    ("batch", { owner := "do_batch"
                parameters := [required "value", required "linecount", optionalNone "fill_with"]
                run := fun _ v => generator (.gathering (.batches (v 0) (v 1) (v 2))) }),
    ("slice", { owner := "sync_do_slice"
                parameters := [required "value", required "slices", optionalNone "fill_with"]
                run := fun _ v => generator (.gathering (.groups (v 0) (v 1) (v 2))) }),
    ("items", { owner := "do_items"
                run := fun _ v => generator (.gathering (.entries (v 0))) })]

end SchemaWrappers.Template.Filters
