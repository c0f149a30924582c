import SchemaWrappers.Syntax.Merging
import SchemaWrappers.Syntax.DeclarationFile

namespace SchemaWrappers.Syntax

/-- A state: the tokens it looks for, the number of the actions on each, the moves that it does not
share, and which shared ones it has. In a state that `passes` a head, all there is to do is to make
a node of that head out of one node, and nothing would show that node. -/
structure Row where
  valid : TokenSet
  actions : Array Nat
  moves : Array (Nat × Nat)
  shared : Nat
  passes : Option Nat
  deriving Inhabited

/-- The states of a grammar. State 0 passes a fault, state 1 is where a reading starts. `signs` are
the fixed texts that are no words, the longest first. -/
structure Table where
  productions : Productions
  actions : Array (List Action)
  rows : Array Row
  shared : Array (Array Nat)
  signs : List (List Char × Nat)
  words : Std.HashMap String Nat
  anyWord : TokenSet
  numbers : Std.HashMap Token Nat

namespace Table

def faultState : Nat := 0

def startState : Nat := 1

private def actionsOf (members : List Nat) (g : Groups) : Array Nat × TokenSet × Groups := Id.run do
  let terminals := g.outline.productions.terminals
  let mut g := g
  let mut actions := Array.replicate terminals 0
  let mut valid := 0
  for state in members do
    let news := g.valid[state]!.without valid
    if news != 0 then
      valid := news.union valid
      for t in [0 : terminals] do
        if news.has t then
          let (n, g') := g.settle state t
          g := g'
          actions := actions.set! t n
  return (actions, valid, g)

/-- Whether a production gives its only node a label or a place, or hands places on. -/
private def isPlain (o : Outline) (production : Nat) : Bool :=
  (o.productions.productions[production]!).steps.all fun s =>
    s.label.isNone && s.place.isNone &&
      !((o.productions.symbols[s.symbol]!).concealed && !(o.items.places[s.symbol]!).isEmpty)

private def labelled (p : Productions) : Std.HashSet Nat :=
  p.productions.foldl (fun found q => q.steps.foldl (fun found s =>
    if s.label.isSome then found.insert s.symbol else found) found) ∅

/-- The head that a state passes, given what it does. -/
private def passedBy (o : Outline) (labelled : Std.HashSet Nat) (all : List Action) : Option Nat :=
  let isIdle (r : Reduction) : Bool :=
    let s := o.productions.symbols[r.head]!
    r.count == 1 && r.weight == 0 && isPlain o r.production && s.concealed && !s.wide &&
      s.label.isNone && !labelled.contains r.head
  let heads := all.map fun
    | .pass => none
    | .reduce r => some (if isIdle r then some r.head else none)
    | _ => some none
  match heads.reduceOption with
  | some h :: rest => if rest.all (· == some h) then some h else none
  | _ => none

/-- What the state does in which a fault is passed: it lets tokens pass that may stand anywhere, and
leaves with any other. -/
private def faultRow (o : Outline) (skip leave : Nat) : Row :=
  let g := o.productions.grammar
  let actions := (o.productions.symbols.extract 0 o.productions.terminals).map fun s =>
    match s.token with
    | some (.form f) =>
      if g.anywhere.contains f then skip
      else if g.unsought.contains (.form f) then 0
      else leave
    | some t => if g.unsought.contains t then 0 else leave
    | none => leave
  let valid := (List.range actions.size).foldl (fun v t =>
    if actions[t]! == 0 then v else v.union (.single t)) 0
  { valid, actions, moves := #[], shared := 0, passes := none }

private def movesOf (g : Groups) (state : Nat) : Array (Nat × Nat) :=
  (g.automaton.states[state]!).moves.map fun (s, n) => (s, g.groupOf[n]! + 1)

private def sharedMoves (g : Groups) (b : Beginnings) : Array Nat :=
  let none_ := g.outline.productions.symbols.map fun _ => 0
  (b.moves.zip b.targets).foldl (fun row ((s, _), n) =>
    if n == 0 then row else row.set! s (g.groupOf[n - 1]! + 1)) none_

private def rowsOf (g : Groups) : Array Row × Groups := Id.run do
  let o := g.outline
  let labels := labelled o.productions
  let mut g := g
  let mut rows := #[default]
  for group in [0 : g.groups.size] do
    let members := g.groups[group]!
    let (actions, valid, g') := actionsOf members g
    g := g'
    let numbers := (valid.toList o.productions.terminals).map fun t => actions[t]!
    let passes := passedBy o labels (numbers.eraseDups.flatMap fun n => g.choices.actions[n]!)
    let state := members.headD 0
    rows := rows.push {
      valid, actions, passes
      moves := movesOf g state
      shared := (g.automaton.states[state]!).beginnings + 1 }
  return (rows, g)

def ofGrammar (grammar : Grammar) : Table :=
  let (o, sets) := Outline.ofGrammar grammar
  let (rows, g) := rowsOf (Groups.ofAutomaton o (Automaton.ofOutline o sets))
  let p := o.productions
  let skip := g.choices.actions.size
  let tokens := (p.symbols.extract 0 p.terminals).toList.zipIdx.filterMap fun (s, n) =>
    s.token.map (·, n)
  let texts := tokens.filterMap fun (t, n) =>
    match t with
    | .text s => some (s, t.isWord, n)
    | .form _ => none
  let words := (texts.filter (·.2.1)).map fun (s, _, n) => (s, n)
  let signs := (texts.filter fun (_, isWord, _) => !isWord).map fun (s, _, n) => (s.toList, n)
  { productions := p
    actions := g.choices.actions ++ #[[.pass], [.recover]]
    rows := rows.set! faultState (faultRow o skip (skip + 1))
    shared := #[#[]] ++ g.automaton.beginnings.map (sharedMoves g)
    signs := signs.mergeSort fun a b => b.1.length ≤ a.1.length
    words := Std.HashMap.ofList words
    anyWord := words.foldl (fun v (_, n) => v.union (.single n)) 0
    numbers := Std.HashMap.ofList tokens }

def number (t : Table) (token : Token) : Nat := t.numbers.getD token 0

def valid (t : Table) (state : Nat) : TokenSet := (t.rows[state]!).valid

def actionsOn (t : Table) (state symbol : Nat) : List Action :=
  t.actions[(t.rows[state]!).actions.getD symbol 0]!

private def move (t : Table) (state symbol : Nat) : Option Nat :=
  let row := t.rows[state]!
  match row.moves.find? (·.1 == symbol) with
  | some (_, n) => some n
  | none =>
    let n := (t.shared[row.shared]!).getD symbol 0
    if n == 0 then none else some n

private def beyond (t : Table) (state : Nat) : Nat → Nat → Nat
  | 0, target => target
  | fuel + 1, target =>
    match (t.rows[target]!).passes.bind (t.move state) with
    | some n => beyond t state fuel n
    | none => target

def goto? (t : Table) (state symbol : Nat) : Option Nat :=
  (t.move state symbol).map (t.beyond state t.productions.symbols.size)

/-- The state behind a symbol: for a token only if it can be taken there, and the same state for one
that may stand anywhere; a fault otherwise. -/
def next (t : Table) (state symbol : Nat) : Nat :=
  if symbol < t.productions.terminals then
    match (t.actionsOn state symbol).getLast? with
    | some .shift | some .lengthen => (t.goto? state symbol).getD faultState
    | some .pass => state
    | _ => faultState
  else (t.goto? state symbol).getD faultState

end Table
end SchemaWrappers.Syntax
