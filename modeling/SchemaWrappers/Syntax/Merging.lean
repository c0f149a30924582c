import SchemaWrappers.Syntax.Choice

/-! Groups of states that are one state. States of one core are grouped first; a group falls apart
where two states would do different things with a token, where a token of one would be sought in
the other and mistaken there, and where their moves lead to different groups. -/
namespace SchemaWrappers.Syntax

/-- The states of an automaton in groups. Of each state, `valid` are the tokens that can follow and
`stopped` those that could be taken but that something firmer ends an item before. -/
structure Groups where
  outline : Outline
  automaton : Automaton
  cores : Array Core
  coreOf : Array Nat
  valid : Array TokenSet
  stopped : Array TokenSet
  groupOf : Array Nat
  groups : Array (List Nat)
  choices : Choices

namespace Groups

private def anywhere (o : Outline) : TokenSet :=
  (List.range o.productions.terminals).foldl (fun s t =>
    match (o.productions.symbols[t]!).token with
    | some (.form f) => if o.productions.grammar.anywhere.contains f then s.union (.single t) else s
    | _ => s) 0

/-- The tokens whose being sought may change how their surroundings are told apart. -/
private def telling (o : Outline) : TokenSet :=
  (List.range o.productions.terminals).foldl (fun s t =>
    match (o.productions.symbols[t]!).token with
    | some (.form f) =>
      if f.isContextual || f == .escape || f == .patternText then s.union (.single t) else s
    | some (.text x) => if x == "||" then s.union (.single t) else s
    | none => s) 0

private def coreOfEntries (o : Outline) (items : Array Nat) : Core :=
  let nexts := items.map fun n => o.items.items[n]!.next
  { items := items
    shifts := nexts.foldl (fun s n => if n == 0 then s else s.union o.firsts[n]!) 0
    done := (Array.range items.size).filter fun k => nexts[k]! == 0 }

/-- The tokens before which the items of a state that are done end, in the order of the core. -/
private def endings (g : Groups) (state : Nat) : Array Nat :=
  let entries := (g.automaton.states[state]!).entries
  (g.cores[g.coreOf[state]!]!).done.map fun k => entries[k]!.set

private def endsBefore (g : Groups) (state t : Nat) : Nat :=
  ((endings g state).foldl (fun (bits, k) n =>
    (if (g.automaton.sets.members[n]!).has t then bits + (1 <<< k) else bits, k + 1)) (0, 0)).1

def settle (state t : Nat) (g : Groups) : Nat × Groups :=
  let (n, choices) := g.choices.settle g.outline g.cores g.coreOf[state]! t (endsBefore g state t)
  (n, { g with choices })

/-- Every state on its own core's group, with the tokens that can follow it. -/
private def ofCores (o : Outline) (a : Automaton) : Groups := Id.run do
  let mut numbers : Std.HashMap (Array Nat) Nat := ∅
  let mut cores : Array Core := #[]
  let mut coreOf : Array Nat := #[]
  let mut valid : Array TokenSet := #[]
  let mut states : Array (Array Nat) := #[]
  let extra := anywhere o
  for n in [0 : a.states.size] do
    let entries := (a.states[n]!).entries
    let items := entries.map Entry.item
    let mut core := numbers.getD items cores.size
    if core == cores.size then
      numbers := numbers.insert items core
      cores := cores.push (coreOfEntries o items)
      states := states.push #[]
    states := states.modify core (·.push n)
    coreOf := coreOf.push core
    let k := cores[core]!
    valid := valid.push <| k.done.foldl (fun s i => s.union a.sets.members[entries[i]!.set]!)
      (k.shifts.union extra)
  return {
    outline := o, automaton := a, cores, coreOf, valid
    stopped := valid.map fun _ => 0
    groupOf := coreOf
    groups := states.map (·.toList)
    choices := {} }

/-- Finds the tokens that could be taken in a state, but that an item ends before. -/
private def findStopped (state : Nat) (g : Groups) : Groups := Id.run do
  let mut g := g
  let core := g.cores[g.coreOf[state]!]!
  let ended := (endings g state).foldl (fun s n => s.union g.automaton.sets.members[n]!) 0
  let doubtful := core.shifts &&& ended
  if doubtful != 0 then
    let mut stopped := 0
    for t in [0 : g.outline.productions.terminals] do
      if doubtful.testBit t then
        let (n, g') := settle state t g
        g := g'
        if !(g.choices.actions[n]!.getLast?.any (·.isShift)) then
          stopped := TokenSet.union stopped (.single t)
    g := { g with stopped := g.stopped.set! state stopped }
  return g

/-- What tells whether states conflict: the tokens beside which each token must not come to be looked
for, if there are any, and the tokens that change how their surroundings are told apart. -/
private structure Rivalry where
  clash : List (Nat × TokenSet)
  telling : TokenSet

private def rivalry (o : Outline) : Rivalry :=
  { clash := ((clashes o).toList.zipIdx.filter (·.1 != 0)).map fun (s, t) => (t, s)
    telling := telling o }

/-- A state with the tokens that must not come to be looked for in it. -/
private structure Rival where
  state : Nat
  unwelcome : TokenSet

private def rivalOf (k : Rivalry) (g : Groups) (state : Nat) : Rival :=
  let valid := g.valid[state]!
  ⟨state, k.clash.foldl (fun s (t, clash) =>
    if clash &&& valid == 0 then s else s.union (.single t)) k.telling⟩

/-- Whether two states of one core do different things with one of some tokens. -/
private def actApart (l r : Nat) : List Nat → Groups → Bool × Groups
  | [], g => (false, g)
  | t :: ts, g =>
    let (m, g) := settle l t g
    let (n, g) := settle r t g
    if m != n then (true, g) else actApart l r ts g

/-- Whether two states of one core cannot be one. -/
private def conflict (l r : Rival) (g : Groups) : Bool × Groups :=
  let members := g.automaton.sets.members
  let apart := ((endings g l.state).zip (endings g r.state)).foldl (fun apart (m, n) =>
    if m == n then apart else apart ||| (members[m]! ^^^ members[n]!)) 0
  let left := g.valid[l.state]!
  let right := g.valid[r.state]!
  let common := apart &&& left &&& right
  if apart == 0 then (false, g)
  else if TokenSet.without apart right &&& r.unwelcome != 0 then (true, g)
  else if TokenSet.without apart left &&& l.unwelcome != 0 then (true, g)
  else if common == 0 then (false, g)
  else actApart l.state r.state (TokenSet.toList common g.outline.productions.terminals) g

private def conflicting (r : Rival) : List Rival → Groups → Option Nat × Groups
  | [], g => (none, g)
  | l :: rest, g =>
    match conflict l r g with
    | (true, g) => (some l.state, g)
    | (false, g) => conflicting r rest g

/-- Splits a list into states of which no two conflict, and the others, in the order of the states
with which they conflict. States whose items end alike conflict with the same ones. -/
private def splitByConflicts (k : Rivalry) (states : List Nat) (g : Groups) :
    List Nat × List Nat × Groups := Id.run do
  let mut g := g
  let mut kept : Array Rival := #[]
  let mut seen : Std.HashMap (Array Nat) (Option Nat) := ∅
  let mut apart : Array (Nat × Nat) := #[]
  let mut staying : Array Nat := #[]
  for r in states do
    let ends := endings g r
    let mut rival : Option Nat := none
    match seen[ends]? with
    | some known => rival := known
    | none =>
      let own := rivalOf k g r
      (rival, g) := conflicting own kept.toList g
      seen := seen.insert ends rival
      if rival.isNone then kept := kept.push own
    match rival with
    | none => staying := staying.push r
    | some l => apart := apart.push (l, r)
  let others := kept.toList.flatMap fun l => (apart.toList.filter (·.1 == l.state)).map (·.2)
  return (staying.toList, others, g)

/-- Makes a group of states that have to leave theirs. -/
private def divide (group : Nat) (kept others : List Nat) (g : Groups) : Groups :=
  let n := g.groups.size
  { g with
    groups := (g.groups.set! group kept).push others
    groupOf := others.foldl (fun of_ s => of_.set! s n) g.groupOf }

private def groupBound : Nat := 1000000

private def splitConflicts (g : Groups) : Groups := Id.run do
  let k := rivalry g.outline
  let mut g := g
  for group in [0 : groupBound] do
    if g.groups.size ≤ group then break
    let states := g.groups[group]!
    if 1 < states.length then
      let (kept, others, g') := splitByConflicts k states g
      g := g'
      if !others.isEmpty then g := divide group kept others g
  return g

private def movesDiffer (g : Groups) (l r : Nat) : Bool := Id.run do
  let a := g.automaton.states[l]!
  let b := g.automaton.states[r]!
  let taken (s : Nat) : Bool := !(g.stopped[l]!.testBit s || g.stopped[r]!.testBit s)
  for k in [0 : a.moves.size] do
    let (s, m) := a.moves[k]!
    if g.groupOf[m]! != g.groupOf[(b.moves[k]!).2]! && taken s then return true
  if a.beginnings != b.beginnings then
    let x := g.automaton.beginnings[a.beginnings]!
    let y := g.automaton.beginnings[b.beginnings]!
    for k in [0 : x.moves.size] do
      let m := x.targets[k]!
      let n := y.targets[k]!
      if m != 0 && n != 0 && g.groupOf[m - 1]! != g.groupOf[n - 1]! then
        let s := (x.moves[k]!).1
        if taken s && !(a.moves.any (·.1 == s)) then return true
  return false

private def splitMoves (g : Groups) : Bool × Groups := Id.run do
  let mut g := g
  let mut changed := false
  for group in [0 : groupBound] do
    if g.groups.size ≤ group then break
    match g.groups[group]! with
    | [] => pure ()
    | l :: rest =>
      let (others, same) := rest.partition (movesDiffer g l)
      if !others.isEmpty then
        changed := true
        g := divide group (l :: same) others g
  return (changed, g)

def ofAutomaton (o : Outline) (a : Automaton) : Groups := Id.run do
  let mut g := ofCores o a
  for state in [0 : a.states.size] do g := findStopped state g
  g := splitConflicts g
  for _ in [0 : groupBound] do
    let (changed, g') := splitMoves g
    g := g'
    if !changed then break
  return g

end Groups
end SchemaWrappers.Syntax
