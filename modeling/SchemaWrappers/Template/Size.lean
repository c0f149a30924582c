import SchemaWrappers.Template.Store

namespace SchemaWrappers.Template.Eval

def drain (walk : Nat) : Eval (List Value) := do
  let found ← untilDone (fun (found : Array Value) => do
    match ← next walk with
    | some v => return (found.push v, false)
    | none => return (found, true)) #[]
  return found.toList

/-- The number of items of a value that has one; loops within loops are counted `depth` deep. -/
def lengthIn? (depth : Nat) (v : Value) : Eval (Option Nat) := do
  match v with
  | .text s _ => return some s.length
  | .tuple items => return some items.length
  | .group .. => return some 2
  | .span start stop step => return some (Value.spanLength start stop step)
  | .list n => return some (← items n).size
  | .table n | .view _ n => return some (← entries n).length
  | .absent true message => absent message
  | .absent false _ => return some 0
  | .loop n =>
    match depth with
    | 0 => return none
    | depth + 1 =>
      let r ← round n
      match r.length with
      | some length => return some length
      | none =>
        match ← lengthIn? depth r.source with
        | some length =>
          setCell n (.loop { (← round n) with length := some length })
          return some length
        | none =>
          let rest ← drain r.walk
          setCell r.walk (.walk (.items rest))
          let peeked := if r.next matches .missing then 0 else 1
          let length := rest.length + (r.index + 1).toNat + peeked
          setCell n (.loop { (← round n) with length := some length })
          return some length
  | _ => return none
termination_by depth

def length? (v : Value) : Eval (Option Nat) := lengthIn? 16 v

def length (v : Value) : Eval Nat := do
  match ← length? v with
  | some n => return n
  | none => kind s!"object of type '{v.sortName}' has no len()"

def holds (v : Value) : Eval Bool := do
  match v with
  | .none => return false
  | .truth b => return b
  | .whole n => return n != 0
  | .decimal x => return x != 0.0
  | v => return (← length? v).all (· != 0)

end SchemaWrappers.Template.Eval
