import SchemaWrappers.Template.Fold

/-! What is wrong with a template whatever it is filled in with. Parts that pass are given back with
all that is known beforehand worked out. -/
namespace SchemaWrappers.Template

/-- Where an expression or a part stands in its template: in a choice, outside every body but
choices, outside every body, and where texts are dropped once the template extends another one; in how
many loops within one another it stands; and which names bodies around declare. -/
structure Stand where
  place : Place := {}
  soft : Bool := false
  top : Bool := false
  root : Bool := false
  guarded : Bool := false
  loops : Nat := 0
  declared : List String := []

namespace Stand

def declares (s : Stand) (n : String) : Bool := s.declared.contains n

/-- The inside of a body. -/
def inner (s : Stand) (scope : Scope) : Stand :=
  { place := s.place, guarded := s.guarded, loops := s.loops
    declared := scope.starts.map (·.1) ++ s.declared }

/-- The inside of a loop; one that can be entered again stands in no other one. -/
def looped (s : Stand) (recursive : Bool) (scope : Scope) : Stand :=
  { s.inner scope with loops := if recursive then 1 else s.loops + 1 }

end Stand

namespace Check
open Eval

def mostLoops : Nat := 20

/-- Refuses a name that is given twice in a call. -/
def distinctNames : List String → Eval Unit
  | [] => pure ()
  | n :: ns => do
    if ns.contains n then throw (.misuse .form s!"keyword argument repeated: {n}")
    distinctNames ns

/-- A power; the sign of a number that is known beforehand is that of the power. -/
def power : Expr → Expr → Expr
  | .constant (.whole n), b =>
    if n < 0 then .minus (.operate .power (.constant (.whole (-n))) b)
    else .operate .power (.constant (.whole n)) b
  | .constant (.decimal x), b =>
    if x < 0.0 then .minus (.operate .power (.constant (.decimal (-x))) b)
    else .operate .power (.constant (.decimal x)) b
  | a, b => .operate .power a b

/-- An expression where it stands; `done` tells that what is known is worked out already. -/
def expr (s : Stand) (done : Bool) : Nat → Expr → Eval Expr
  | 0, e => pure e
  | fuel + 1, e => do
    let plain := e matches .list _ | .tuple _ | .table _ | .name _ | .constant _
    let fold := !done && !plain && !s.place.varies
    let e ← if fold then folded s.place (fuel + 1) e else pure e
    let check := expr s (done || fold) fuel
    let soft := expr { s with soft := true } (done || fold) fuel
    let given (g : Given Expr) : Eval (Given Expr) := do
      distinctNames (g.names.map (·.1))
      return { places := ← g.places.mapM check
               names := ← g.names.mapM fun (n, e) => return (n, ← check e)
               morePlaces := ← g.morePlaces.mapM check
               moreNames := ← g.moreNames.mapM check }
    match e with
    | .constant c =>
      let _ ← shown (← ofConstant c)
      return e
    | .name n =>
      if !s.declares n then
        throw (.misuse .assertion
          ("Tried to resolve a name to a reference that was unknown to the frame " ++
            s!"({Text.quote n})"))
      return e
    | .list es => return .list (← es.mapM check)
    | .tuple es => return .tuple (← es.mapM check)
    | .table pairs => return .table (← pairs.mapM fun (k, v) => return (← check k, ← check v))
    | .field e n => return .field (← check e) n
    | .item a b => return .item (← check a) (← check b)
    | .slice e a b c =>
      return .slice (← check e) (← a.mapM check) (← b.mapM check) (← c.mapM check)
    | .call f g => return .call (← check f) (← given g)
    | .filter input n g =>
      if !Filters.isKnown n && !s.soft then
        throw (.template s!"No filter named {Text.quote n}.")
      return .filter (← input.mapM check) n (← given g)
    | .test input n g =>
      if !Tests.isKnown n && !s.soft then
        throw (.template s!"No test named {Text.quote n}.")
      return .test (← check input) n (← given g)
    | .plus e => return .plus (← check e)
    | .minus e => return .minus (← check e)
    | .not e => return .not (← check e)
    | .operate .power a b => return power (← check a) (← check b)
    | .operate op a b => return .operate op (← check a) (← check b)
    | .join es => return .join (← es.mapM check)
    | .both a b => return .both (← check a) (← check b)
    | .either a b => return .either (← check a) (← check b)
    | .compare e others =>
      return .compare (← check e) (← others.mapM fun (c, e) => return (c, ← check e))
    | .choose line c a b => return .choose line (← soft c) (← soft a) (← b.mapM soft)

def item (s : Stand) (fuel : Nat) : Item → Eval Item
  | .data d => pure (.data d)
  | .value e => do
    match ← (known s.place fuel e).run with
    | some v => return .data (← output s.place.escape v)
    | none => return .value (← expr s false fuel e)

def joinTexts : List Item → List Item
  | .data a :: items =>
    match joinTexts items with
    | .data b :: rest => .data (a ++ b) :: rest
    | rest => .data a :: rest
  | i :: items => i :: joinTexts items
  | [] => []

def setsLoop : Part → Bool
  | .loop t .. | .assign t _ | .capture t .. => t.names.contains "loop"
  | _ => false

def bodyOf (s : Stand) (m : Macro) : Eval Stand := do
  if asksFor "caller" m.body &&
      m.parameters.any (fun p => p.name == "caller" && p.fallback.isNone) then
    throw (.template ("When defining macros or call blocks the special \"caller\" argument must be " ++
      "omitted or be given a default."))
  return { s.inner (Scope.ofMacro s.declares m) with guarded := false, loops := 0 }

mutual
/-- Parts where they stand; the state tells whether the template is known to extend another one. -/
def parts (s : Stand) : Nat → List Part → StateT Bool Eval (List Part)
  | 0, ps => pure ps
  | _, [] => pure []
  | fuel + 1, p :: ps => do
    let extends_ ← get
    let q ← part s fuel p
    if extends_ && p matches .extend _ then return [q]
    return q :: (← parts s fuel ps)

def part (s : Stand) : Nat → Part → StateT Bool Eval Part
  | 0, p => pure p
  | fuel + 1, p => do
    let check (e : Expr) : Eval Expr := expr s false fuel e
    match p with
    | .output is =>
      if s.guarded && (← get) then return .output []
      return .output (joinTexts (← is.mapM fun i => item s fuel i))
    | .choose branches otherwise =>
      let s := { s with soft := true, root := false }
      let bs ← branches.mapM fun (c, ps) => do
        return (← expr s false fuel c, ← parts s fuel ps)
      return .choose bs (← parts s fuel otherwise)
    | .loop t source only recursive body otherwise =>
      if (Part.withinAll [p]).any setsLoop then
        throw (.template "Can't assign to special loop variable in for-loop target")
      if !recursive && mostLoops ≤ s.loops then
        throw (.misuse .form "too many statically nested blocks")
      let only ← only.mapM fun c =>
        expr (s.inner (Scope.ofCondition s.declares t c)) false fuel c
      let source ← check source
      let counted := countsItself body otherwise recursive
      let body ← parts (s.looped recursive (Scope.ofLoop s.declares t counted body)) fuel body
      let otherwise ← parts (s.inner (Scope.ofBody s.declares otherwise)) fuel otherwise
      return .loop t source only recursive body otherwise
    | .assign t e => return .assign t (← check e)
    | .capture t filter body =>
      let s := { s.inner (Scope.ofBody s.declares body) with guarded := false }
      let body ← parts s fuel body
      return .capture t (← filter.mapM fun e => expr s false fuel e) body
    | .define n ps body =>
      let (ps, body) ← routine s ⟨some n, ps, body⟩ fuel
      return .define n ps body
    | .callWith ps call body =>
      let (ps, body) ← routine s ⟨none, ps, body⟩ fuel
      return .callWith ps (← check call) body
    | .bind names body =>
      let bs ← names.mapM fun (t, e) => return (t, ← check e)
      return .bind bs (← parts (s.inner (Scope.ofBinding s.declares names body)) fuel body)
    | .filter e body =>
      let s := s.inner (Scope.ofFilter s.declares e body)
      let body ← parts s fuel body
      return .filter (← expr s false fuel e) body
    | .escape on body =>
      let s := s.inner (Scope.ofEscape s.declares on body)
      let on ← expr s false fuel on
      match ← (known s.place fuel on).run with
      | some v =>
        let b ← holds v
        let place : Place := { s.place with escape := b }
        return .escape (.constant (.truth b)) (← parts { s with place } fuel body)
      | none =>
        let place : Place := { s.place with varies := true }
        return .escape on (← parts { s with place } fuel body)
    | .block .. => if s.top && (← get) then return .output [] else return p
    | .inclusion source optional =>
      return .inclusion { source with template := ← check source.template } optional
    | .importAs source n => return .importAs { source with template := ← check source.template } n
    | .importNames source names =>
      return .importNames { source with template := ← check source.template } names
    | .extend e =>
      if !s.top then throw (.template "cannot use extend from a non top-level scope")
      if ← get then return .extend e
      let e ← check e
      if s.root then set true
      return .extend e

def routine (s : Stand) (m : Macro) : Nat → StateT Bool Eval (List Formal × List Part)
  | 0 => pure (m.parameters, m.body)
  | fuel + 1 => do
    let s ← bodyOf s m
    let ps ← m.parameters.mapM fun p => do
      return { p with fallback := ← p.fallback.mapM fun e => expr s false fuel e }
    return (ps, ← parts s fuel m.body)
end

def distinctBlocks : List String → Eval Unit
  | [] => pure ()
  | n :: ns => do
    if ns.contains n then throw (.template s!"block {Text.quote n} defined twice")
    distinctBlocks ns

def template (fuel : Nat) (name : String) (ps : List Part) : Eval Prepared := do
  let all := Part.withinAll ps
  let blocks := all.filterMap fun
    | .block n _ _ body => some (n, body)
    | _ => none
  distinctBlocks (blocks.map (·.1))
  let names (special : List String) (ps : List Part) : List String :=
    (Scope.ofRoot special ps).starts.map (·.1)
  let mayExtend := all.any fun
    | .extend _ => true
    | _ => false
  let root : Stand := { top := true, root := true, guarded := mayExtend, declared := names ["self"] ps }
  let (ps, known) ← (parts root fuel ps).run false
  let blocks ← blocks.mapM fun (n, body) => do
    let (body, _) ← (parts { declared := names ["self", "super"] body } fuel body).run known
    return (n, body)
  return { name, parts := ps, blocks, mayExtend }

end Check
end SchemaWrappers.Template
