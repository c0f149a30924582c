import SchemaWrappers.Template.Tests

namespace SchemaWrappers.Template

namespace Constant

/-- The first number that has no end, or is none, in a constant; there is no way to write it. -/
def unwritable? : Constant → Option String
  | decimal x => if x.isNaN then some "nan" else if x.isInf then some "inf" else Option.none
  | tuple items | list items => ofItems items
  | table pairs => ofPairs pairs
  | _ => Option.none
where
  ofItems : List Constant → Option String
    | [] => Option.none
    | c :: cs => (unwritable? c).or (ofItems cs)
  ofPairs : List (Constant × Constant) → Option String
    | [] => Option.none
    | (k, v) :: ps => (unwritable? k).or ((unwritable? v).or (ofPairs ps))

end Constant

namespace Eval

mutual
def ofConstant : Constant → Eval Value
  | .none => return .none
  | .truth b => return .truth b
  | .whole n => return .whole n
  | .decimal x => return .decimal x
  | .text s safe => return .text s safe
  | .tuple items => return .tuple (← ofConstants items)
  | .list items => do newList (← ofConstants items)
  | .table pairs => do newTable (← ofPairs pairs)
  | .span a b c => return .span a b c

def ofConstants : List Constant → Eval (List Value)
  | [] => return []
  | c :: cs => return (← ofConstant c) :: (← ofConstants cs)

def ofPairs : List (Constant × Constant) → Eval (List (Value × Value))
  | [] => return []
  | (k, v) :: ps => return (← ofConstant k, ← ofConstant v) :: (← ofPairs ps)
end

/-- The constant that a value is, if it is made up of numbers, texts, tuples, lists and tables. -/
def constantIn? : Nat → Value → OptionT Eval Constant
  | 0, _ => failure
  | depth + 1, v => do
    let inside := constantIn? depth
    match v with
    | .none => return .none
    | .truth b => return .truth b
    | .whole n => return .whole n
    | .decimal x => return .decimal x
    | .text s safe => return .text s safe
    | .tuple items => return .tuple (← items.mapM inside)
    | .list n => return .list (← (← (items n : Eval _)).toList.mapM inside)
    | .table n =>
      return .table (← (← (entries n : Eval _)).mapM fun (k, w) => return (← inside k, ← inside w))
    | .span a b c => return .span a b c
    | _ => failure

def constant? (v : Value) : Eval (Option Constant) := (constantIn? 1000 v).run

end Eval
end SchemaWrappers.Template
