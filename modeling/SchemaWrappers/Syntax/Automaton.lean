import SchemaWrappers.Syntax.Item

/-! The automaton of a grammar. A state holds the items that a text may be in the midst of, each with
the tokens that may follow its production; a state and a symbol lead to the next state. States in
which the same rules may begin share the moves on what these rules begin with. -/
namespace SchemaWrappers.Syntax

/-- A set of tokens as a key; all its bits take part in the hash. -/
structure SetKey where
  tokens : TokenSet
  deriving BEq

instance : Hashable SetKey where
  hash k := mixHash (hash (k.tokens % (1 <<< 64)))
    (mixHash (hash ((k.tokens >>> 64) % (1 <<< 64))) (hash (k.tokens >>> 128)))

/-- The sets of tokens that have come up, each with a number; 0 is the empty one. -/
structure TokenSets where
  members : Array TokenSet := #[0]
  numbers : Std.HashMap SetKey Nat := (∅ : Std.HashMap SetKey Nat).insert ⟨0⟩ 0
  unions : Std.HashMap Nat Nat := ∅
  deriving Inhabited

def setBound : Nat := 65536

namespace TokenSets

def number (ts : TokenSets) (s : TokenSet) : Nat × TokenSets :=
  match ts.numbers[(⟨s⟩ : SetKey)]? with
  | some n => (n, ts)
  | none =>
    let n := ts.members.size
    (n, { ts with members := ts.members.push s, numbers := ts.numbers.insert ⟨s⟩ n })

def join (ts : TokenSets) (a b : Nat) : Nat × TokenSets :=
  if a == b || b == 0 then (a, ts)
  else if a == 0 then (b, ts)
  else
    match ts.unions[a * setBound + b]? with
    | some n => (n, ts)
    | none =>
      let (n, ts) := ts.number (ts.members[a]!.union ts.members[b]!)
      (n, { ts with unions := ts.unions.insert (a * setBound + b) n })

end TokenSets

/-- An item with the number of a set of tokens. -/
abbrev Entry := Nat

namespace Entry

def of (item set : Nat) : Entry := item * setBound + set
def item (e : Entry) : Nat := e / setBound
def set (e : Entry) : Nat := e % setBound

end Entry

/-- The rules that begin in a state. Each symbol that one of them begins with leads to the entries
given for it, and, where no other item of the state goes on with it, to a state; 0 stands for none
so far. All such states are there once it is `settled`. -/
structure Beginnings where
  moves : Array (Nat × Array Entry)
  targets : Array Nat
  settled : Bool := false
  deriving Inhabited

/-- The entries of a state, what begins in it, and the moves of its own. -/
structure State where
  entries : Array Entry
  beginnings : Nat := 0
  moves : Array (Nat × Nat) := #[]
  deriving Inhabited

/-- What is known of a grammar beforehand: the tokens that a symbol can begin with, and for each
head the heads that it can begin with, the tokens that may follow them in it, and whether they may
also end it. -/
structure Outline where
  productions : Productions
  items : Items
  firsts : Array TokenSet
  firstNumbers : Array Nat
  within : Array (Array (Nat × Nat × Bool))

structure Automaton where
  sets : TokenSets
  states : Array State := #[]
  numbers : Std.HashMap (Array Entry) Nat := ∅
  beginnings : Array Beginnings := #[]
  byHeads : Std.HashMap (Array Nat) Nat := ∅
  byFollowers : Std.HashMap (Array Nat) Nat := ∅
  deriving Inhabited

namespace Outline

private def firstTokens (p : Productions) : Array TokenSet :=
  let start := p.symbols.mapIdx fun i _ => if i < p.terminals then TokenSet.single i else 0
  let pass (firsts : Array TokenSet) : Array TokenSet := p.productions.foldl (fun firsts q =>
    match q.steps with
    | [] => firsts
    | s :: _ => firsts.modify q.head (·.union firsts[s.symbol]!)) firsts
  (List.range 40).foldl (fun firsts _ => pass firsts) start

/-- Adds a head to those that another one begins with; tells whether that was news. -/
private def note (found : Array (Nat × TokenSet × Bool)) (head : Nat) (follow : TokenSet)
    (atEnd : Bool) : Bool × Array (Nat × TokenSet × Bool) :=
  match found.findIdx? (·.1 == head) with
  | none => (true, found.push (head, follow, atEnd))
  | some k =>
    let (_, f, e) := found[k]!
    if f.union follow == f && (e || !atEnd) then (false, found)
    else (true, found.set! k (head, f.union follow, e || atEnd))

private def headsWithin (p : Productions) (firsts : Array TokenSet) (head : Nat) :
    Array (Nat × TokenSet × Bool) := Id.run do
  let mut found := #[]
  let mut open_ : List (Nat × TokenSet × Bool) := [(head, 0, true)]
  for _ in [0 : 100 * p.productions.size] do
    match open_ with
    | [] => break
    | (h, follow, atEnd) :: rest =>
      open_ := rest
      let (news, f) := note found h follow atEnd
      found := f
      if news then
        for i in p.ofHead[h - p.terminals]! do
          match p.productions[i]!.steps with
          | [] => pure ()
          | [s] => if p.terminals ≤ s.symbol then open_ := (s.symbol, follow, atEnd) :: open_
          | s :: t :: _ =>
            if p.terminals ≤ s.symbol then open_ := (s.symbol, firsts[t.symbol]!, false) :: open_
  return found

def ofGrammar (g : Grammar) : Outline × TokenSets :=
  let p := Productions.ofGrammar g
  let firsts := firstTokens p
  let (firstNumbers, sets) := firsts.foldl (fun (ns, sets) f =>
    let (n, sets) := sets.number f
    (ns.push n, sets)) (#[], ({} : TokenSets))
  let (within, sets) := (List.range p.ofHead.size).foldl (fun (all, sets) h =>
    let (heads, sets) := (headsWithin p firsts (p.terminals + h)).foldl (fun (hs, sets) (h, f, e) =>
      let (n, sets) := TokenSets.number sets f
      (hs.push (h, n, e), sets)) (#[], sets)
    (all.push heads, sets)) (#[], sets)
  ({ productions := p, items := Items.ofProductions p, firsts, firstNumbers, within }, sets)

end Outline

namespace Automaton

private def stateOf (a : Automaton) (entries : Array Entry) : Nat × Automaton :=
  match a.numbers[entries]? with
  | some n => (n, a)
  | none =>
    let n := a.states.size
    (n, { a with states := a.states.push { entries }, numbers := a.numbers.insert entries n })

private def gather (entries : Array Entry) (sets : TokenSets) : Array Entry × TokenSets :=
  if entries.size ≤ 1 then (entries, sets)
  else
    (entries.insertionSort (· < ·)).foldl (fun (done, sets) e =>
      match done.back? with
      | some last =>
        if last.item == e.item then
          let (n, sets) := TokenSets.join sets last.set e.set
          (done.pop.push (Entry.of e.item n), sets)
        else (done.push e, sets)
      | none => (done.push e, sets)) (#[], sets)

/-- The heads that items of a state go on with, each with what may follow. -/
private def followers (o : Outline) (entries : Array Entry) : Array Nat :=
  entries.foldl (fun fs e =>
    let i := o.items.items[e.item]!
    if i.next < o.productions.terminals then fs
    else fs.push (i.next * setBound + if i.after == 0 then e.set else o.firstNumbers[i.after]!)) #[]

/-- All heads that begin in a state, each with what may follow. -/
private def headsFor (o : Outline) (fs : Array Nat) (sets : TokenSets) : Array Nat × TokenSets :=
  Id.run do
  let mut sets := sets
  let mut follow := o.productions.ofHead.map fun _ => 0
  for f in fs do
    for (h, n, atEnd) in o.within[f / setBound - o.productions.terminals]! do
      let k := h - o.productions.terminals
      let mut n := n
      if atEnd then
        (n, sets) := sets.join n (f % setBound)
      (n, sets) := sets.join follow[k]! n
      follow := follow.set! k n
  let mut heads := #[]
  for k in [0 : follow.size] do
    if follow[k]! != 0 then heads := heads.push (k * setBound + follow[k]!)
  return (heads, sets)

private def movesFor (o : Outline) (heads : Array Nat) : Array (Nat × Array Entry) := Id.run do
  let mut bySymbol : Array (Array Entry) := o.productions.symbols.map fun _ => #[]
  let mut symbols : Array Nat := #[]
  for h in heads do
    for (s, items) in o.items.firstSteps[h / setBound]! do
      if bySymbol[s]!.isEmpty then symbols := symbols.push s
      for i in items do
        bySymbol := bySymbol.modify s (·.push (Entry.of i (h % setBound)))
  let order := symbols.qsort fun a b => o.productions.written[a]! < o.productions.written[b]!
  return order.map fun s => (s, bySymbol[s]!.insertionSort (· < ·))

private def beginningsOf (o : Outline) (entries : Array Entry) (a : Automaton) : Nat × Automaton :=
  let fs := followers o entries
  match a.byFollowers[fs]? with
  | some n => (n, a)
  | none =>
    let (heads, sets) := headsFor o fs a.sets
    let a := { a with sets }
    match a.byHeads[heads]? with
    | some n => (n, { a with byFollowers := a.byFollowers.insert fs n })
    | none =>
      let n := a.beginnings.size
      let moves := movesFor o heads
      (n, { a with
        beginnings := a.beginnings.push { moves, targets := moves.map fun _ => 0 }
        byHeads := a.byHeads.insert heads n
        byFollowers := a.byFollowers.insert fs n })

/-- What the items of a state themselves lead to, in the order of writing. -/
private def ownMoves (o : Outline) (entries : Array Entry) : Array (Nat × Array Entry) :=
  let moves := entries.foldl (fun moves e =>
    let i := o.items.items[e.item]!
    if i.next == 0 then moves
    else
      let onward := Entry.of i.onward e.set
      match moves.findIdx? (·.1 == i.next) with
      | some k => moves.modify k fun (s, es) => (s, es.push onward)
      | none => moves.push (i.next, #[onward])) (#[] : Array (Nat × Array Entry))
  if moves.size ≤ 1 then moves
  else moves.insertionSort fun a b => o.productions.written[a.1]! < o.productions.written[b.1]!

private def target (a : Automaton) (entries : Array Entry) : Nat × Automaton :=
  let (entries, sets) := gather entries a.sets
  stateOf { a with sets } entries

/-- Finds what begins in a state and where it leads. New states are numbered in the order in which
the symbols that lead to them are written. -/
private def visit (o : Outline) (number : Nat) (a : Automaton) : Automaton := Id.run do
  let entries := a.states[number]!.entries
  let own := ownMoves o entries
  let (b, a') := beginningsOf o entries a
  let mut a := a'
  let shared := a.beginnings[b]!.moves
  let settled := a.beginnings[b]!.settled
  let mut moves : Array (Nat × Nat) := #[]
  if settled then
    for (s, es) in own do
      let more := ((shared.find? (·.1 == s)).map (·.2)).getD #[]
      let (n, a') := target a (es ++ more)
      a := a'
      moves := moves.push (s, n)
  else
    let mut i := 0
    let mut k := 0
    let mut clear := true
    let rank (ms : Array (Nat × Array Entry)) (k : Nat) : Nat :=
      match ms[k]? with
      | some (s, _) => o.productions.written[s]!
      | none => 1000000
    for _ in [0 : own.size + shared.size] do
      let left := rank own i
      let right := rank shared k
      if left ≤ right then
        if i < own.size then
          let (s, es) := own[i]!
          let (n, a') := target a (if left == right then es ++ shared[k]!.2 else es)
          a := a'
          moves := moves.push (s, n)
          if left == right then
            clear := false
            k := k + 1
          i := i + 1
      else
        if a.beginnings[b]!.targets[k]! == 0 then
          let (n, a') := stateOf a shared[k]!.2
          let k' := k
          a := { a' with beginnings := a'.beginnings.modify b fun x =>
            { x with targets := x.targets.set! k' (n + 1) } }
        k := k + 1
    if clear then
      a := { a with beginnings := a.beginnings.modify b fun x => { x with settled := true } }
  return { a with states := a.states.modify number fun s => { s with beginnings := b, moves } }

/-- More than there are states. -/
def stateBound : Nat := 1000000

/-- All states of a grammar; state 0 is where a reading starts. -/
def ofOutline (o : Outline) (sets : TokenSets) : Automaton := Id.run do
  let (ending, sets) := sets.number (TokenSet.single 0)
  let start := #[Entry.of 0 ending] ++ (o.items.void.map (Entry.of · ending)).toArray
  let mut a := (stateOf { sets } start).2
  for number in [0 : stateBound] do
    if number < a.states.size then a := visit o number a else break
  return a

end Automaton
end SchemaWrappers.Syntax
