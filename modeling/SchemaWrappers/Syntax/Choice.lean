import SchemaWrappers.Syntax.Clash

/-! What to do in each state with each token. Where several readings go on, the firmest do; where
none is firmer, all do. States that agree wherever a token stands in both of them are one. -/
namespace SchemaWrappers.Syntax

/-- The making of a node out of the last `count` nodes. -/
structure Reduction where
  head : Nat
  count : Nat
  weight : Int
  production : Nat
  deriving Inhabited

/-- Taking the token and going on; the same where it only lengthens a repetition; making a node;
being done; taking a token that may stand anywhere; looking for a place where to go on after a
fault. -/
inductive Action where
  | shift
  | lengthen
  | reduce (r : Reduction)
  | accept
  | pass
  | recover
  deriving Inhabited

namespace Action

def isShift : Action → Bool
  | .shift | .lengthen => true
  | _ => false

end Action

def Grammar.compareRanks (g : Grammar) (a : Option Rank) (as : List String) (b : Option Rank)
    (bs : List String) : Ordering :=
  let isFirst (k : Option Rank) (names : List String) : Rank ⊕ String → Bool
    | .inl r => k == some r
    | .inr n => names.contains n
  let inOrdering (entries : List (Rank ⊕ String)) : Option Ordering :=
    (entries.foldl (fun (found, sawA, sawB) e =>
      if (found : Option Ordering).isSome then (found, sawA, sawB)
      else if isFirst a as e then (if sawB then some .lt else none, true, sawB)
      else if isFirst b bs e then (if sawA then some .gt else none, sawA, true)
      else (none, sawA, sawB)) (none, false, false)).1
  let byName := (g.orderings.findSome? inOrdering).getD .eq
  match a, b with
  | some (.level m), some (.level n) => if m != 0 || n != 0 then compare m n else byName
  | some (.level m), none => if m != 0 then compare m 0 else byName
  | none, some (.level n) => if n != 0 then compare 0 n else byName
  | _, _ => byName

/-- The states whose items are the same, whatever may follow them. `done` are the places of the
items that end. -/
structure Core where
  items : Array Nat
  shifts : TokenSet
  done : Array Nat
  deriving Inhabited

/-- Lists of actions by number. -/
structure Choices where
  actions : Array (List Action) := #[[]]
  numbers : Std.HashMap (List Nat) Nat := (∅ : Std.HashMap (List Nat) Nat).insert [] 0
  settled : Std.HashMap Nat Nat := ∅
  reductions : Std.HashMap (Nat × Nat × Int × List (Option Label × List String)) Nat := ∅
  reduced : Array Reduction := #[]
  deriving Inhabited

namespace Choices

private def rankOrder (a b : Option Rank) : Ordering :=
  match a, b with
  | none, none => .eq
  | none, _ => .lt
  | _, none => .gt
  | some (.level m), some (.level n) => compare m n
  | some (.level _), some (.named _) => .lt
  | some (.named _), some (.level _) => .gt
  | some (.named s), some (.named t) => compare s t

private def sideOrder : Option Side → Nat
  | none => 0
  | some .left => 1
  | some .right => 2

private def before (a b : Item) : Bool :=
  let order := (compare a.step b.step).then <| (compare a.head b.head).then <|
    (compare a.weight b.weight).then <| (rankOrder a.rank b.rank).then
      (compare (sideOrder a.side) (sideOrder b.side))
  order == .lt

/-- The number of a reduction, the same for all that make nodes alike. -/
private def reduction (o : Outline) (c : Choices) (i : Item) : Nat × Choices :=
  let p := o.productions
  let shape := (p.productions[i.production]!.steps).map fun s =>
    (s.label, s.place.toList ++
      if p.symbols[s.symbol]!.concealed then "" :: o.items.places[s.symbol]! else [])
  let key := (i.head, i.step, i.weight, shape)
  match c.reductions[key]? with
  | some n => (n, c)
  | none =>
    let n := c.reduced.size
    (n, { c with
      reductions := c.reductions.insert key n
      reduced := c.reduced.push ⟨i.head, i.step, i.weight, i.production⟩ })

/-- Items that end, of equal rank, and what is known of them. -/
private structure Candidates where
  actions : List Nat := []
  rank : Option Rank := none
  heads : List Nat := []
  sides : List (Option Side) := []

private def nameOf (o : Outline) (head : Nat) : String :=
  (o.productions.symbols[head]?.map (·.kind)).getD ""

private def codeOf : Action → Nat
  | .shift => 0
  | .lengthen => 1
  | .accept => 2
  | .pass => 3
  | .recover => 4
  | .reduce _ => 5

/-- Adds an item that ends to those found before, unless they are firmer. -/
private def consider (o : Outline) (cs : Candidates × Choices) (i : Item) : Candidates × Choices :=
  let (cs, c) := cs
  let isWhole := i.head == o.productions.symbols.size
  let (code, c) := if isWhole then (codeOf .accept, c)
    else
      let (n, c) := reduction o c i
      (n + codeOf (.reduce default), c)
  let seen (cs : Candidates) : Candidates := { cs with
    rank := i.rank
    heads := if cs.heads.contains i.head then cs.heads else i.head :: cs.heads
    sides := i.side :: cs.sides }
  if cs.actions.isEmpty then (seen { cs with actions := [code] }, c)
  else
    match o.productions.grammar.compareRanks i.rank [nameOf o i.head] cs.rank
        (cs.heads.map (nameOf o)) with
    | .gt => (seen { actions := [code] }, c)
    | .eq => (seen { cs with actions := cs.actions ++ [code] }, c)
    | .lt => (cs, c)

/-- The actions that are left where a token can also be taken. -/
private def withShift (o : Outline) (core : Core) (t : Nat) (ended : List Item)
    (cs : Candidates) : List Nat :=
  if cs.actions.isEmpty then [codeOf .shift]
  else
    let going : List Item := core.items.toList.filterMap fun n =>
      let i := o.items.items[n]!
      if i.next != 0 && i.step != 0 && (o.firsts[i.next]!).has t then some i else none
    let heads := (going ++ ended).map (·.head)
    let repeats := match heads with
      | h :: hs => (o.productions.symbols[h]!.repetition) && hs.all (· == h)
      | [] => false
    if repeats then cs.actions ++ [codeOf .lengthen]
    else
      let orders := going.map fun i => o.productions.grammar.compareRanks i.rank [nameOf o i.head]
        cs.rank (cs.heads.map (nameOf o))
      let more := orders.contains .gt
      let less := orders.contains .lt
      if more && !less then [codeOf .shift]
      else if less && !more then cs.actions
      else if more && less then cs.actions ++ [codeOf .shift]
      else if cs.sides.all (· == some Side.left) then cs.actions
      else if cs.sides.all (· == some Side.right) then [codeOf .shift]
      else cs.actions ++ [codeOf .shift]

private def number (c : Choices) (codes : List Nat) : Nat × Choices :=
  match c.numbers[codes]? with
  | some n => (n, c)
  | none =>
    let n := c.actions.size
    let action (k : Nat) : Action := match k with
      | 0 => .shift
      | 1 => .lengthen
      | 2 => .accept
      | 3 => .pass
      | 4 => .recover
      | k + 5 => .reduce c.reduced[k]!
    (n, { c with actions := c.actions.push (codes.map action), numbers := c.numbers.insert codes n })

/-- The number of the actions on a token, where the items of a core that `ends` numbers end before
it. -/
def settle (o : Outline) (cores : Array Core) (core t ends : Nat) (c : Choices) : Nat × Choices :=
  let key := (core * 256 + t) * 65536 + ends
  let k := cores[core]!
  if ends == 0 then c.number [codeOf (if k.shifts.has t then .shift else .pass)]
  else match c.settled[key]? with
  | some n => (n, c)
  | none =>
    let ended := (k.done.toList.zipIdx.filterMap fun (place, n) =>
      if ends.testBit n then o.items.items[k.items[place]!]? else none).mergeSort
        fun a b => !before b a
    let (cs, c) := ended.foldl (consider o) ({}, c)
    let codes := if k.shifts.has t then withShift o k t (ended.filter fun i =>
      i.head != o.productions.symbols.size) cs else cs.actions
    let codes := if codes.isEmpty then [codeOf .pass] else codes
    let (n, c) := c.number codes
    (n, { c with settled := c.settled.insert key n })

end Choices
end SchemaWrappers.Syntax
