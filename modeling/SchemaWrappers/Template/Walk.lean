import SchemaWrappers.Template.Access
import SchemaWrappers.Text.Casing
import SchemaWrappers.Text.Search

namespace SchemaWrappers.Template.Eval

def walkOf (v : Value) : Eval Nat := do
  let start (way : Way) : Eval Nat := addCell (.walk way)
  match v with
  | .walk _ n => return n
  | .text s _ => start (.items (s.toList.map fun c => .plain c.toString))
  | .list n => start (.list n 0)
  | .table n => start (.table .keys n 0 (← entries n).length)
  | .view side n => start (.table side n 0 (← entries n).length)
  | .span a b c => start (.span a c (Value.spanLength a b c))
  | .loop n => start (.rounds n)
  | .absent true message => absent message
  | .absent false _ => start (.items [])
  | v =>
    match v.tuple? with
    | some items => start (.items items)
    | none => kind s!"'{v.sortName}' object is not iterable"

def itemsOf (v : Value) : Eval (List Value) := do
  match v with
  | .list n => return (← items n).toList
  | .tuple items => return items
  | v => drain (← walkOf v)

def isIterable (v : Value) : Eval Bool := do
  try
    let _ ← walkOf v
    return true
  catch
    | .misuse .kind _ => return false
    | e => throw e

/-- What is run through from the end on. -/
def backward (v : Value) : Eval Value := do
  let unfit : Eval Value := kind s!"'{v.sortName}' object is not reversible"
  match v with
  | .list n => newWalk "list_reverseiterator" (.listBack n (← items n).size)
  | .text s _ => newWalk "reversed" (.items (s.toList.reverse.map fun c => .plain c.toString))
  | .span a b c =>
    let n := Value.spanLength a b c
    newWalk "range_iterator" (.span (a + c * (n - 1 : Int)) (-c) n)
  | .table n => newWalk "dict_reversekeyiterator" (.items ((← entries n).reverse.map (·.1)))
  | .view side n =>
    let es := (← entries n).reverse
    match side with
    | .keys => newWalk "dict_reversekeyiterator" (.items (es.map (·.1)))
    | .values => newWalk "dict_reversevalueiterator" (.items (es.map (·.2)))
    | .items => newWalk "dict_reverseitemiterator" (.items (es.map fun e => .tuple [e.1, e.2]))
  | .absent _ message => absent message
  | v =>
    match v.tuple? with
    | some items => newWalk "reversed" (.items items.reverse)
    | none => unfit

/-- Text values in lower case, and others as they are. -/
def caseless (v : Value) : Value :=
  match v with
  | .text s safe => .text (Text.lower s) safe
  | v => v

def batches (items : List Value) (size fill : Value) : Eval (List Value) := do
  let (done, last) ← items.foldlM (fun (done, last) item => do
    if ← equal (.whole (last.length : Nat)) size then
      return (done ++ [last], [item])
    else return (done, last ++ [item])) (([], []) : List (List Value) × List Value)
  if last.isEmpty then done.mapM newList
  else
    let last ← match fill with
      | .none => pure last
      | fill => do
        if ← less (.whole (last.length : Nat)) size then
          match size.whole? with
          | some n => pure (last ++ List.replicate (n - last.length).toNat fill)
          | none => kind "can't multiply sequence by non-int of type 'float'"
        else pure last
    (done ++ [last]).mapM newList

/-- Items in so many groups; the first ones have one more if they cannot be of one size. -/
def groups (items : List Value) (count fill : Value) : Eval (List Value) := do
  match count.whole? with
  | none =>
    kind s!"unsupported operand type(s) for //: 'int' and '{count.sortName}'"
  | some n =>
    if n == 0 then throw (.misuse .divisionByZero "integer division or modulo by zero")
    let size := Int.fdiv items.length n
    let extra := Int.fmod items.length n
    (List.range n.toNat).mapM fun (i : Nat) => do
      let start := min (i : Int) extra + i * size
      let longer : Bool := (i : Int) < extra
      let taken := (items.drop start.toNat).take (size + if longer then 1 else 0).toNat
      if longer || fill matches .none then newList taken else newList (taken ++ [fill])

/-- Items without those that an earlier one is equal to by what lies along a path. -/
def distinct (items : List Value) (exact : Bool) (path : List Value) : Eval (List Value) := do
  let (kept, _) ← items.foldlM (fun (kept, seen) item => do
    let key ← along path none item
    let key := if exact then key else caseless key
    match ← lookUp seen key with
    | some _ => return (kept, seen)
    | none => return (kept ++ [item], seen ++ [(key, .none)]))
    (([], []) : List Value × List (Value × Value))
  return kept

def gathered (g : Gathering) : Eval (List Value) := do
  match g with
  | .batches input size fill => batches (← itemsOf input) size fill
  | .groups input count fill => groups (← itemsOf input) count fill
  | .distinct input exact path => distinct (← itemsOf input) exact path
  | .entries (.absent ..) => return []
  | .entries (.table n) => return (← entries n).map fun e => .tuple [e.1, e.2]
  | .entries _ => kind "Can only get item pairs from a mapping."

/-- What is done with each item, as the arguments of a mapping tell it. -/
def changeOf (args : Arguments) : Eval Change := do
  match args.places, args.names.lookup "attribute" with
  | [], some entry =>
    let others := args.names.filter fun p => p.1 != "attribute" && p.1 != "default"
    match others with
    | (n, _) :: _ => throw (.template s!"Unexpected keyword argument {Text.quote n}")
    | [] =>
      let fallback := match args.names.lookup "default" with
        | some .none => none
        | found => found
      return .entry (pathOf entry) fallback
  | [], none => throw (.template "map requires a filter argument")
  | .text name _ :: places, _ => return .filter name ⟨places, args.names⟩
  | name :: _, _ => unnamed "filter" name
where
  /-- What is said of a filter or a test whose name is no text. -/
  unnamed {α : Type} (what : String) (name : Value) : Eval α := do
    match name with
    | .absent _ message =>
      throw (.template (s!"No {what} named Undefined. (" ++ message ++
        "; did you forget to quote the callable name?)"))
    | name =>
      hashable 100 name
      let shown ← shown name
      throw (.template s!"No {what} named {shown}.")

def choiceOf (along keeps : Bool) (args : Arguments) : Eval Choice := do
  let (path, places) ← match along, args.places with
    | false, places => pure ([], places)
    | true, entry :: places => pure (pathOf entry, places)
    | true, [] => throw (.template "Missing parameter for attribute name")
  match places with
  | [] => return { path, test := none, keeps }
  | .text name _ :: places => return { path, test := some (name, ⟨places, args.names⟩), keeps }
  | name :: _ => changeOf.unnamed "test" name

def declaring (name : String) : Nat → Nat → Eval (Option Nat)
  | 0, _ => pure none
  | fuel + 1, n => do
    let f ← frame n
    if (f.names.lookup name).isSome then return some n
    else
      match f.outer with
      | some outer => declaring name fuel outer
      | none => return none

def declaring? (start : Nat) (name : String) : Eval (Option Nat) := do
  declaring name ((← get).frames.size + 1) start

/-- What a name stands for in the bodies around; `missing` if it has no value yet. -/
def local? (start : Nat) (name : String) : Eval (Option Value) := do
  match ← declaring? start name with
  | some n => return (← frame n).names.lookup name
  | none => return none

def setName (start : Nat) (name : String) (v : Value) : Eval Unit := do
  let n := (← declaring? start name).getD start
  let f ← frame n
  setFrame n { f with names := Assoc.set f.names name v }

/-- As many items as there are targets. -/
def unpack (count : Nat) (v : Value) : Eval (List Value) := do
  let walk ← try walkOf v
    catch
      | .misuse .kind _ => kind s!"cannot unpack non-iterable {v.sortName} object"
      | e => throw e
  let found ← (List.range (count + 1)).foldlM (fun (found : List Value) _ => do
    if found.length == count + 1 then return found
    match ← next walk with
    | some v => return found ++ [v]
    | none => return found) []
  if count < found.length then value s!"too many values to unpack (expected {count})"
  else if found.length < count then
    value s!"not enough values to unpack (expected {count}, got {found.length})"
  else return found

mutual
def assign (frame : Nat) (v : Value) : Target → Eval Unit
  | .name n => setName frame n v
  | .entry owner name => do
    match ← local? frame owner with
    | some (.space n) | some (.table n) =>
      setCell n (.table (← withEntry (← entries n) (.plain name) v))
    | some (.absent _ message) => absent message
    | owner =>
      kind s!"'{(owner.getD .missing).sortName}' object does not support item assignment"
  | .many ts => do
    let vs ← unpack ts.length v
    assignAll frame vs ts

def assignAll (frame : Nat) : List Value → List Target → Eval Unit
  | v :: vs, t :: ts => do
    assign frame v t
    assignAll frame vs ts
  | _, _ => pure ()
end

mutual
def targetValue (frame : Nat) : Target → Eval Value
  | .name n | .entry n _ => return (← local? frame n).getD .missing
  | .many ts => return .tuple (← targetValues frame ts)

def targetValues (frame : Nat) : List Target → Eval (List Value)
  | [] => pure []
  | t :: ts => return (← targetValue frame t) :: (← targetValues frame ts)
end

/-- The next item of a walk. -/
def step (n : Nat) : Eval (Option Value) := do
  let way ← match ← cell n with
    | .walk way => pure way
    | _ => pure .done
  let go (way : Way) (v : Value) : Eval (Option Value) := do
    setCell n (.walk way)
    return some v
  let stop : Eval (Option Value) := do
    setCell n (.walk .done)
    return none
  match way with
  | .done => return none
  | .items [] => stop
  | .items (v :: vs) => go (.items vs) v
  | .list m i =>
    match (← items m)[i]? with
    | some v => go (.list m (i + 1)) v
    | none => stop
  | .listBack _ 0 => stop
  | .listBack m (i + 1) =>
    match (← items m)[i]? with
    | some v => go (.listBack m i) v
    | none => stop
  | .table side m i size =>
    let es ← entries m
    if es.length != size then
      throw (.misuse .state "dictionary changed size during iteration")
    match es[i]? with
    | none => stop
    | some (k, v) =>
      go (.table side m (i + 1) size) (match side with
        | .keys => k
        | .values => v
        | .items => .tuple [k, v])
  | .span _ _ 0 => stop
  | .span a by_ (count + 1) => go (.span (a + by_) by_ count) (.whole a)
  | .rounds m =>
    let v ← peekNext m
    match v with
    | .missing => stop
    | v =>
      let r ← round m
      setCell m (.loop { r with
        index := r.index + 1, before := r.current, current := v, next := .missing })
      return some (.tuple [v, .loop m])
  | .changeOf input args context =>
    if ← holds input then
      let change ← changeOf args
      let walk ← walkOf input
      setCell n (.walk (.changed walk change context))
      next n
    else stop
  | .changed walk change context =>
    match ← next walk with
    | none => stop
    | some v =>
      match change with
      | .entry path fallback => return some (← along path fallback v)
      | .filter name args => return some (← filter context name v args)
  | .choiceOf input byEntry keeps args context =>
    if ← holds input then
      let choice ← choiceOf byEntry keeps args
      let walk ← walkOf input
      setCell n (.walk (.chosen walk choice context))
      next n
    else stop
  | .chosen walk choice context =>
    let found ← untilDone (fun (_ : Option Value) => do
      match ← next walk with
      | none => return (none, true)
      | some v =>
        let subject ← along choice.path none v
        let passed ← match choice.test with
          | none => holds subject
          | some (name, args) => do holds (← test context name subject args)
        return (some v, passed == choice.keeps)) none
    if found.isNone then stop else return found
  | .gathering g =>
    setCell n (.walk (.items (← gathered g)))
    next n
  | .only walk target condition env =>
    let found ← untilDone (fun (_ : Option Value) => do
      match ← next walk with
      | none => return (none, true)
      | some v =>
        assign env.frame v target
        return (some (← targetValue env.frame target), ← holds (← expr env condition))) none
    if found.isNone then stop else return found

/-- Whether a value is among the items of another one. -/
def within (a b : Value) : Eval Bool := do
  match a, b with
  | .text s _, .text t _ => return Text.isInfix s.toList t.toList
  | a, .text .. => kind s!"'in <string>' requires string as left operand, not {a.sortName}"
  | a, .table n | a, .view .keys n => return (← lookUp (← entries n) a).isSome
  | a, .span start stop step =>
    let n := Value.spanLength start stop step
    match a with
    | .absent true message => if n == 0 then return false else absent message
    | a =>
      match a.whole? with
      | some m =>
        let d := m - start
        return if 0 < step then start ≤ m && m < stop && d % step == 0
          else m ≤ start && stop < m && d % (-step) == 0
      | none => return (← (List.range n).findM? fun i =>
          sameOrEqual (Value.spanItem start step i) a).isSome
  | _, .absent true message => absent message
  | a, b =>
    let walk ← try walkOf b
      catch
        | .misuse .kind _ => kind s!"argument of type '{b.sortName}' is not iterable"
        | e => throw e
    let found ← untilDone (fun (_ : Bool) => do
      match ← next walk with
      | none => return (false, true)
      | some v =>
        let found ← sameOrEqual v a
        return (found, found)) false
    return found

def compare (c : Comparison) (a b : Value) : Eval Bool := do
  match c with
  | .within => within a b
  | .without => return !(← within a b)
  | .equal => equal a b
  | .different => return !(← equal a b)
  | c => ordered c a b

end SchemaWrappers.Template.Eval
