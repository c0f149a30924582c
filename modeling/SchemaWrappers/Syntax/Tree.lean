import SchemaWrappers.Syntax.SourceText
import SchemaWrappers.Syntax.Table

namespace SchemaWrappers.Syntax

/-- A tree between places of a text. It begins at `start`, after the gap from `before` on. `cost`
tells how faulty it is, `weight` how welcome, `count` how many nodes it shows, itself included,
and `shownParts` how many of them right below. A `word` is a token that could also be a name. -/
structure Tree where
  symbol : Nat
  before : Nat
  start : Nat
  stop : Nat
  shown : Bool
  cost : Nat := 0
  weight : Int := 0
  count : Nat := 0
  shownParts : Nat := 0
  extra : Bool := false
  missing : Bool := false
  word : Bool := false
  production : Option Nat := none
  parts : List Tree := []
  deriving Inhabited

/-- What reading something faulty costs. -/
structure Prices where
  fault : Nat
  missingToken : Nat
  skippedNode : Nat
  skippedByte : Nat
  skippedRow : Nat

def prices : Prices := ⟨500, 610, 100, 1, 30⟩

namespace Tree

def faultSymbol : Nat := 65535

def skippedSymbol : Nat := 65534

def isFaulty (symbol : Nat) : Bool := symbol == faultSymbol || symbol == skippedSymbol

def shows (p : Productions) (symbol : Nat) : Bool :=
  symbol == faultSymbol || match p.symbols[symbol]? with
    | some s => s.shown || s.label.isSome
    | none => false

private def countOf (symbol : Nat) (shown : Bool) (within : Nat) : Nat :=
  within + (if shown then 1 else 0) + if symbol == skippedSymbol then 1 else 0

def within (t : Tree) : Nat := t.count - countOf t.symbol t.shown 0

def token (p : Productions) (symbol before start stop : Nat) (word : Bool) : Tree :=
  let shown := shows p symbol
  { symbol, before, start, stop, shown, word
    count := countOf symbol shown 0
    extra := symbol == 0 }

def absent (p : Productions) (symbol place : Nat) : Tree :=
  { token p symbol place place place false with missing := true, cost := prices.missingToken }

/-- The same text as another token. -/
def asSymbol (p : Productions) (t : Tree) (symbol : Nat) : Tree :=
  let shown := shows p symbol
  { t with symbol, shown, count := countOf symbol shown 0 }

/-- What skipping a part costs beyond its own cost. -/
private def skipping (t : Tree) : Nat :=
  if t.extra || (t.symbol == faultSymbol && t.parts.isEmpty) then 0
  else if t.shown then prices.skippedNode
  else prices.skippedNode * t.shownParts

/-- Adds up what is shown of some parts, right below and in all; `steps` tell which parts have
labels. -/
private def tally : List Step → List Tree → Nat × Nat
  | _, [] => (0, 0)
  | steps, t :: ts =>
    let rest := tally (if t.extra then steps else steps.drop 1) ts
    let labelled := !t.extra && t.symbol != 0 && steps.head?.any (·.label.isSome)
    if labelled || t.shown then (rest.1 + 1, rest.2 + t.within + 1)
    else (rest.1 + t.shownParts, rest.2 + t.within)

def node (p : Productions) (text : SourceText) (symbol place : Nat) (parts : List Tree)
    (production : Option Nat) : Tree :=
  let before := (parts.head?.map (·.before)).getD place
  let start := (parts.head?.map (·.start)).getD place
  let stop := (parts.getLast?.map (·.stop)).getD place
  let own := parts.foldl (fun c t => if t.symbol == skippedSymbol then c else c + t.cost) 0
  let cost := if isFaulty symbol then
      parts.foldl (fun c t => c + skipping t) own + prices.fault +
        prices.skippedByte * (text.offset stop - text.offset start) +
        prices.skippedRow * (text.row stop - text.row start)
    else own
  let steps := (production.bind (p.productions[·]?)).elim [] (·.steps)
  let (shownParts, within) := tally steps parts
  let shown := shows p symbol
  { symbol, before, start, stop, shown, cost, shownParts, production, parts
    weight := parts.foldl (fun w t => w + t.weight) 0
    count := countOf symbol shown within }

/-- Compares trees by their symbols and the numbers of their parts, from the top down. -/
def order : Tree → Tree → Ordering
  | ⟨s, _, _, _, _, _, _, _, _, _, _, _, _, parts⟩, b =>
    ((compare s b.symbol).then (compare parts.length b.parts.length)).then (orders parts b.parts)
where
  orders : List Tree → List Tree → Ordering
    | t :: ts, u :: us => (order t u).then (orders ts us)
    | _, _ => .eq

/-- Whether the second of two trees is the better reading: the one that costs less, the more welcome
one, or the lesser. -/
def isBetter (old new : Tree) : Bool :=
  if new.cost != old.cost then new.cost < old.cost
  else if new.weight != old.weight then old.weight < new.weight
  else 0 < old.cost || order old new == .gt

/-- Whether two trees that end at one place read the same text alike. -/
def alike (a b : Tree) : Bool :=
  a.symbol == b.symbol && ((0 < a.cost && 0 < b.cost) ||
    (a.before == b.before && a.start == b.start && a.parts.length == b.parts.length &&
      a.extra == b.extra))

/-- Takes the trees off the end of a row that may stand anywhere. -/
def splitExtras (ts : List Tree) : List Tree × List Tree :=
  let r := ts.reverse
  ((r.dropWhile (·.extra)).reverse, (r.takeWhile (·.extra)).reverse)

end Tree
end SchemaWrappers.Syntax
