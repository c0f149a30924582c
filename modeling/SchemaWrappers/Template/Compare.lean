import SchemaWrappers.Template.Show

namespace SchemaWrappers.Template

/-- How a whole number stands to another number; there is no answer for what is no number. -/
def orderWhole (n : Int) (x : Float) : Option Ordering :=
  if x.isNaN then none
  else if x.isInf then some (if 0.0 < x then .lt else .gt)
  else
    let b := Decimal.Binary.ofBits (x.toBits &&& 0x7fffffffffffffff)
    let m : Int := if x < 0.0 then -(b.mantissa : Int) else b.mantissa
    if 0 ≤ b.power then some (compare n (m * ((1 <<< b.power.toNat : Nat) : Int)))
    else some (compare (n * ((1 <<< (-b.power).toNat : Nat) : Int)) m)

def orderDecimal (x y : Float) : Option Ordering :=
  if x < y then some .lt else if y < x then some .gt else if x == y then some .eq else none

/-- How two numbers stand to each other; `none` if one of the values is no number. -/
def orderNumbers? (a b : Value) : Option (Option Ordering) :=
  match a.whole?, b.whole?, a, b with
  | some m, some n, _, _ => some (some (compare m n))
  | some m, none, _, .decimal y => some (orderWhole m y)
  | none, some n, .decimal x, _ => some ((orderWhole n x).map Ordering.swap)
  | none, none, .decimal x, .decimal y => some (orderDecimal x y)
  | _, _, _, _ => none

namespace Value

def tuple? : Value → Option (List Value)
  | tuple items => some items
  | group key members => some [key, members]
  | _ => Option.none

def spanItem (start step : Int) (i : Nat) : Value := whole (start + step * i)

end Value

namespace Eval

def allEqual (equal : Value → Value → Eval Bool) : List Value → List Value → Eval Bool
  | [], [] => pure true
  | a :: as, b :: bs => do
    if (Value.same a b) || (← equal a b) then allEqual equal as bs else return false
  | _, _ => pure false

def lookUpBy (equal : Value → Value → Eval Bool) (key : Value) :
    List (Value × Value) → Eval (Option Value)
  | [] => pure none
  | (k, v) :: es => do
    if (Value.same k key) || (← equal k key) then return some v else lookUpBy equal key es

def sameEntries (equal : Value → Value → Eval Bool) (other : List (Value × Value)) :
    List (Value × Value) → Eval Bool
  | [] => pure true
  | (k, v) :: es => do
    match ← lookUpBy equal k other with
    | none => return false
    | some w =>
      if (Value.same v w) || (← equal v w) then sameEntries equal other es else return false

/-- Equal values; numbers of all kinds are compared by what they are, and tables whatever the order
of their entries. -/
def equalIn : Nat → Value → Value → Eval Bool
  | 0, _, _ => throw (.misuse .depth "maximum recursion depth exceeded in comparison")
  | depth + 1, a, b => do
    let equal := equalIn depth
    match a, b with
    | .absent true message, _ | _, .absent true message => absent message
    | .absent .., .absent .. => return true
    | .text s _, .text t _ => return s == t
    | .list m, .list n =>
      if m == n then return true
      else
        let (as, bs) := ((← items m).toList, (← items n).toList)
        if as.length == bs.length then allEqual equal as bs else return false
    | .table m, .table n =>
      if m == n then return true
      else
        let (as, bs) := (← entries m, ← entries n)
        if as.length == bs.length then sameEntries equal bs as else return false
    | .view .keys m, .view .keys n =>
      let (as, bs) := (← entries m, ← entries n)
      if as.length != bs.length then return false
      else as.allM fun e => return (← lookUpBy equal e.1 bs).isSome
    | .view .items m, .view .items n =>
      let (as, bs) := (← entries m, ← entries n)
      if as.length == bs.length then sameEntries equal bs as else return false
    | .span a b c, .span d e f =>
      let n := Value.spanLength a b c
      return n == Value.spanLength d e f && (n == 0 || a == d && (n == 1 || c == f))
    | a, b =>
      match a.tuple?, b.tuple? with
      | some as, some bs => allEqual equal as bs
      | _, _ =>
        match orderNumbers? a b with
        | some o => return o == some .eq
        | none => return Value.same a b

def equal (a b : Value) : Eval Bool := equalIn 900 a b

def sameOrEqual (a b : Value) : Eval Bool := do
  if Value.same a b then return true else equal a b

def hashable : Nat → Value → Eval Unit
  | 0, _ => pure ()
  | depth + 1, v => do
    match v with
    | .list _ | .table _ | .view .keys _ | .view .items _ => kind s!"unhashable type: '{v.sortName}'"
    | .absent true message => absent message
    | v => (v.tuple?.getD []).forM (hashable depth)

def lookUp (es : List (Value × Value)) (key : Value) : Eval (Option Value) := do
  hashable 100 key
  lookUpBy equal key es

def withEntry (es : List (Value × Value)) (key v : Value) : Eval (List (Value × Value)) := do
  match ← lookUp es key with
  | none => return es ++ [(key, v)]
  | some _ => es.mapM fun e => do
    return if ← sameOrEqual e.1 key then (e.1, v) else e

def withoutEntry (es : List (Value × Value)) (key : Value) : Eval (List (Value × Value)) := do
  es.filterM fun e => return !(← sameOrEqual e.1 key)

def comparisonMark : Comparison → String
  | .equal => "=="
  | .different => "!="
  | .less => "<"
  | .atMost => "<="
  | .more => ">"
  | .atLeast => ">="
  | .within => "in"
  | .without => "not in"

/-- Whether an order between two values is the one that is asked for. -/
def fits (c : Comparison) : Ordering → Bool
  | .lt => c == .less || c == .atMost
  | .eq => c == .atMost || c == .atLeast
  | .gt => c == .more || c == .atLeast

def firstDifference : List Value → List Value → Eval (Option (Value × Value))
  | a :: as, b :: bs => do
    if ← sameOrEqual a b then firstDifference as bs else return some (a, b)
  | _, _ => pure none

/-- Whether two values stand to each other in an order; lists are compared by the first items in
which they differ. -/
def orderedIn (c : Comparison) : Nat → Value → Value → Eval Bool
  | 0, _, _ => throw (.misuse .depth "maximum recursion depth exceeded in comparison")
  | depth + 1, a, b => do
    let unfit : Eval Bool := kind
      s!"'{comparisonMark c}' not supported between instances of '{a.sortName}' and '{b.sortName}'"
    let lists (as bs : List Value) : Eval Bool := do
      match ← firstDifference as bs with
      | none => return fits c (compare as.length bs.length)
      | some (x, y) => orderedIn c depth x y
    match a, b with
    | .absent _ message, _ | _, .absent _ message => absent message
    | .text s _, .text t _ => return fits c (compare s t)
    | .list m, .list n => lists (← items m).toList (← items n).toList
    | a, b =>
      match a.tuple?, b.tuple? with
      | some as, some bs => lists as bs
      | _, _ =>
        match orderNumbers? a b with
        | some o => return o.any (fits c)
        | none => unfit

def ordered (c : Comparison) (a b : Value) : Eval Bool := orderedIn c 900 a b

def less (a b : Value) : Eval Bool := ordered .less a b

/-- Puts an item where it belongs among items in order, behind those that it does not come before. -/
def insertBy (before : α → α → Eval Bool) (x : α) : List α → Eval (List α)
  | [] => pure [x]
  | y :: ys => do if ← before x y then return x :: y :: ys else return y :: (← insertBy before x ys)

/-- Items in order; equal ones stay as they stand. -/
def sortBy (before : α → α → Eval Bool) (xs : List α) : Eval (List α) :=
  xs.foldlM (fun (sorted : List α) x => insertBy before x sorted) []

end Eval
end SchemaWrappers.Template
