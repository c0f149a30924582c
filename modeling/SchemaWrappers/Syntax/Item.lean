import SchemaWrappers.Syntax.Production

/-! Items: productions that have been read up to some step. Items that go on alike and make nodes
alike are one item. -/
namespace SchemaWrappers.Syntax

/-- A set of tokens, token `n` standing for bit `n`. -/
abbrev TokenSet := Nat

namespace TokenSet

def single (t : Nat) : TokenSet := 1 <<< t

def has (s : TokenSet) (t : Nat) : Bool := s.testBit t

def union (a b : TokenSet) : TokenSet := a ||| b

def without (a b : TokenSet) : TokenSet := a ^^^ (a &&& b)

def toList (s : TokenSet) (terminals : Nat) : List Nat := (List.range terminals).filter s.has

end TokenSet

/-- A head with the steps of a production, `step` of them read. What comes next is symbol `next`,
then `after`; 0 stands for the end of the production. The reading of `next` leads to item `onward`.
`rank` and `side` are those of the last step that was read, of one that makes a node the production
tells how. -/
structure Item where
  head : Nat
  step : Nat
  next : Nat := 0
  after : Nat := 0
  onward : Nat := 0
  weight : Int := 0
  rank : Option Rank := none
  side : Option Side := none
  production : Nat := 0
  deriving Inhabited

/-- What tells one item from another. -/
private structure ItemKey where
  head : Nat
  step : Nat
  length : Nat
  weight : Int
  rank : Option Rank
  side : Option Side
  handing : Bool
  before : List (Option Label × Option String × Nat)
  rest : List Step
  deriving BEq, Hashable

/-- All items of a grammar. Item 0 is the whole text, which item 1 has read. `firstSteps` gives for
each head the items that have read one symbol, by that symbol in the order of writing; `void` is the
item of an empty text, if the text may be empty, and `places` are the places within each symbol. -/
structure Items where
  items : Array Item
  firstSteps : Array (Array (Nat × Array Nat))
  void : Option Nat
  places : Array (List String)

namespace Items

/-- For each symbol the places that its productions name, themselves or through concealed heads. -/
private def placesWithin (p : Productions) : Array (List String) :=
  let add (names : List String) (n : String) : List String :=
    if names.contains n then names else n :: names
  let stepPlaces (names : Array (List String)) (s : Step) : List String :=
    s.place.toList ++ if (p.symbols[s.symbol]?.any (·.concealed)) then names[s.symbol]! else []
  let pass (names : Array (List String)) : Array (List String) :=
    p.productions.foldl (fun names q =>
      names.modify q.head ((q.steps.flatMap (stepPlaces names)).foldl add)) names
  let names := (List.range 12).foldl (fun names _ => pass names) (p.symbols.map fun _ => [])
  names.map (·.mergeSort)

private structure Gathering where
  ids : Std.HashMap ItemKey Nat := ∅
  items : Array Item
  firstSteps : Array (Array (Nat × Array Nat))

private def itemAt (hands : Array Bool) (production : Nat) (q : Production)
    (length step : Nat) (last : Option Step) (read rest : List Step) (g : Gathering) :
    Nat × Gathering :=
  let handing := read.any fun s => hands[s.symbol]!
  let key : ItemKey := {
    head := q.head, step, length, weight := q.weight
    rank := last.bind (·.rank), side := last.bind (·.side), handing
    before := read.map fun s => (s.label, s.place, if handing then s.symbol else 0)
    rest }
  match g.ids[key]? with
  | some i => (i, g)
  | none =>
    let symbolAt (k : Nat) : Nat := (rest[k]?.map (·.symbol)).getD 0
    let item : Item := {
      head := q.head, step, next := symbolAt 0, after := symbolAt 1, weight := q.weight
      rank := key.rank, side := key.side, production }
    (g.items.size, { g with ids := g.ids.insert key g.items.size, items := g.items.push item })

private def addFirst (starts : Array (Nat × Array Nat)) (symbol item : Nat) :
    Array (Nat × Array Nat) :=
  match starts.findIdx? (·.1 == symbol) with
  | some k => starts.modify k fun (s, is) => (s, if is.contains item then is else is.push item)
  | none => starts.push (symbol, #[item])

private def walk (p : Productions) (hands : Array Bool) (production : Nat) (q : Production)
    (length : Nat) (from? : Option Nat) (step : Nat) (read : List Step) :
    List Step → Gathering → Gathering
  | [], g => g
  | s :: rest, g =>
    let read := s :: read
    let (i, g) := itemAt hands production q length (step + 1) (some s) read rest g
    let lead (it : Item) : Item := if it.onward == 0 then { it with onward := i } else it
    let g := match from? with
      | some j => { g with items := g.items.modify j lead }
      | none =>
        let starts := g.firstSteps.modify (q.head - p.terminals) (addFirst · s.symbol i)
        { g with firstSteps := starts }
    walk p hands production q length (some i) (step + 1) read rest g

def ofProductions (p : Productions) : Items :=
  let places := placesWithin p
  let hands := p.symbols.mapIdx fun i s => s.concealed && !places[i]!.isEmpty
  let whole : Array Item := #[
    { head := p.symbols.size, step := 0, next := p.terminals, onward := 1 },
    { head := p.symbols.size, step := 1 }]
  let g : Gathering := { items := whole, firstSteps := p.ofHead.map fun _ => #[] }
  let g := p.productions.zipIdx.foldl (fun g (q, i) =>
    walk p hands i q q.steps.length none 0 [] q.steps g) g
  let void := p.ofHead[0]!.find? fun i => (p.productions[i]!.steps).isEmpty
  let items := match void with
    | some i => g.items.push { head := p.terminals, step := 0, production := i }
    | none => g.items
  { items := items
    firstSteps := g.firstSteps.map fun starts =>
      starts.qsort fun a b => p.written[a.1]! < p.written[b.1]!
    void := void.map fun _ => g.items.size
    places := places }

end Items
end SchemaWrappers.Syntax
