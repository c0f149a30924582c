import SchemaWrappers.Template.Constant

namespace SchemaWrappers.Template

/-- What is known of the place of an expression beforehand: whether texts are escaped there, and
whether that is open until the template is filled in. -/
structure Place where
  escape : Bool := false
  varies : Bool := false

namespace Place

/-- The contexts that stand for a place before there is any other one: texts are escaped in the second
one. -/
def context (p : Place) : Nat := if p.escape then 1 else 0

end Place

namespace Eval

/-- A step whose failures mean that a value is not known. -/
def attempt (run : OptionT Eval α) : OptionT Eval α :=
  OptionT.mk (tryCatch run.run fun _ => pure none)

def sliceOrNone (v a b c : Value) : Eval Value := do
  try getSlice v a b c
  catch
    | .misuse .kind _ | .misuse .place _ | .misuse .key _ | .misuse .field _ =>
      return .absent true s!"{v.kindName} has no element"
    | e => throw e

def canFold (isTest : Bool) (name : String) : Bool :=
  if isTest then Tests.isKnown name
  else Filters.isKnown name && !Filters.heldNames.contains name

def spreadArguments (places : List Value) (names : List (String × Value)) (morePlaces : Option Value)
    (moreNames : Option Value) : Eval Arguments := do
  let places ← match morePlaces with
    | some v => do pure (places ++ (← itemsOf v))
    | none => pure places
  match moreNames with
  | none => return ⟨places, names⟩
  | some (.table n) =>
    let more ← (← entries n).mapM fun
      | (.text k _, v) => pure (k, v)
      | _ => kind "keywords must be strings"
    match more.find? fun p => (names.lookup p.1).isSome with
    | some (k, _) => kind s!"got multiple values for keyword argument '{k}'"
    | none => return ⟨places, names ++ more⟩
  | some (.absent true message) => absent message
  | some v => kind s!"argument after ** must be a mapping, not {v.sortName}"

def known (p : Place) : Nat → Expr → OptionT Eval Value
  | 0, _ => failure
  | fuel + 1, e => do
    let known := known p fuel
    let orNone : Option Expr → OptionT Eval Value
      | some e => known e
      | none => pure .none
    let apply (isTest : Bool) (input : Expr) (name : String) (g : Given Expr) : OptionT Eval Value := do
      if p.varies || !canFold isTest name then failure
      let places ← g.places.mapM known
      let names ← g.names.mapM fun (n, e) => return (n, ← known e)
      let args ← attempt do
        let more ← g.morePlaces.mapM known
        let moreNames ← g.moreNames.mapM known
        spreadArguments places names more moreNames
      let v ← known input
      attempt (if isTest then test p.context name v args else filter p.context name v args)
    match e with
    | .constant c => ofConstant c
    | .name _ | .call .. | .filter none .. => failure
    | .list es => do newList (← es.mapM known)
    | .tuple es => return .tuple (← es.mapM known)
    | .table pairs =>
      let es ← pairs.foldlM (fun es (k, v) => do withEntry es (← known k) (← known v)) []
      newTable es
    | .field e n => attempt do getField (← known e) n
    | .item a b => attempt do getEntry (← known a) (← known b)
    | .slice e a b c => attempt do
      sliceOrNone (← known e) (← orNone a) (← orNone b) (← orNone c)
    | .filter (some e) n g => apply false e n g
    | .test e n g => apply true e n g
    | .plus e => attempt do plus (← known e)
    | .minus e => attempt do minus (← known e)
    | .not e => attempt do return .truth (!(← holds (← known e)))
    | .operate op a b => attempt do operate op (← known a) (← known b)
    | .join es =>
      let texts ← es.mapM fun e => do textOf (← known e)
      return .plain (String.join texts)
    | .both a b =>
      let v ← known a
      if ← holds v then known b else return v
    | .either a b =>
      let v ← known a
      if ← holds v then return v else known b
    | .compare first others =>
      let v ← known first
      attempt do
        let (_, result) ← others.foldlM (fun ((v, so) : Value × Bool) (c, e) => do
          if so then
            let w ← known e
            return (w, ← compare c v w)
          else return (v, so)) (v, true)
        return .truth result
    | .choose _ c a b =>
      if ← holds (← known c) then known a
      else
        match b with
        | some b => known b
        | none => failure

/-- An expression with what is known beforehand worked out, from the inside to the outside. -/
def folded (p : Place) : Nat → Expr → Eval Expr
  | 0, e => pure e
  | fuel + 1, e => do
    let fold := folded p fuel
    let given (g : Given Expr) : Eval (Given Expr) := do
      return { places := ← g.places.mapM fold
               names := ← g.names.mapM fun (n, e) => return (n, ← fold e)
               morePlaces := ← g.morePlaces.mapM fold
               moreNames := ← g.moreNames.mapM fold }
    let e ← match e with
      | .constant _ | .name _ => pure e
      | .list es => pure (.list (← es.mapM fold))
      | .tuple es => pure (.tuple (← es.mapM fold))
      | .table pairs => pure (.table (← pairs.mapM fun (k, v) => return (← fold k, ← fold v)))
      | .field e n => pure (.field (← fold e) n)
      | .item a b => pure (.item (← fold a) (← fold b))
      | .slice e a b c =>
        pure (.slice (← fold e) (← a.mapM fold) (← b.mapM fold) (← c.mapM fold))
      | .call f g => pure (.call (← fold f) (← given g))
      | .filter input n g => pure (.filter (← input.mapM fold) n (← given g))
      | .test input n g => pure (.test (← fold input) n (← given g))
      | .plus e => pure (.plus (← fold e))
      | .minus e => pure (.minus (← fold e))
      | .not e => pure (.not (← fold e))
      | .operate op a b => pure (.operate op (← fold a) (← fold b))
      | .join es => pure (.join (← es.mapM fold))
      | .both a b => pure (.both (← fold a) (← fold b))
      | .either a b => pure (.either (← fold a) (← fold b))
      | .compare e others =>
        pure (.compare (← fold e) (← others.mapM fun (c, e) => return (c, ← fold e)))
      | .choose line c a b => pure (.choose line (← fold c) (← fold a) (← b.mapM fold))
    match e with
    | .constant _ => return e
    | e =>
      match ← (known p (fuel + 1) e).run with
      | none => return e
      | some v => return ((← constant? v).map Expr.constant).getD e

end Eval
end SchemaWrappers.Template
