import SchemaWrappers.Syntax.Node
import SchemaWrappers.Syntax.Following

namespace SchemaWrappers.Syntax

def declarationTable : Table := Table.ofGrammar DeclarationFile.grammar

namespace Job
variable (j : Job)

private def labelOf (t : Tree) (label : Option Label) : Option Label :=
  if t.symbol == Tree.faultSymbol then some ⟨Node.errorKind, true⟩
  else match j.table.productions.symbols[t.symbol]? with
    | none => none
    | some s => (label.or s.label).or (if s.shown then some ⟨s.kind, s.named⟩ else none)

private def stepsOf (production : Option Nat) : List Step :=
  (production.bind (j.table.productions.productions[·]?)).elim [] (·.steps)

/-- The nodes that a tree shows, in front of others: itself with its parts below it, or else what its
parts show. A part without a place of its own is in the place of what it is a part of. -/
private def nodesOf : Tree → Option Label → Option String → List Node → List Node
  | ⟨symbol, before, start, stop, shown, cost, weight, count, shownParts, extra, missing, word,
      production, parts⟩, label, place, rest =>
    let t : Tree := ⟨symbol, before, start, stop, shown, cost, weight, count, shownParts, extra,
      missing, word, production, []⟩
    let steps := j.stepsOf production
    match j.labelOf t label with
    | some l =>
      { kind := l.kind, named := l.named, missing, field := place
        start := j.text.offset start, stop := j.text.offset stop, row := j.text.row start
        children := nodesOfParts steps none parts [] } :: rest
    | none => nodesOfParts steps place parts rest
where
  nodesOfParts (steps : List Step) (place : Option String) : List Tree → List Node → List Node
    | [], rest => rest
    | t :: ts, rest =>
      if t.extra then
        nodesOf t none none (nodesOfParts steps place ts rest)
      else
        let step := steps.head?
        let own := step.bind (·.place)
        nodesOf t (step.bind (·.label)) (own.or place) (nodesOfParts (steps.drop 1) place ts rest)

end Job

/-- The tree of a text, and whether something in it is faulty. -/
structure Reading where
  tree : Node
  faulty : Bool

def read (cs : List Char) : Reading :=
  let j : Job := ⟨declarationTable, .ofList cs⟩
  match j.bestTree with
  | some t =>
    let nothing : Node := { kind := Node.errorKind }
    ⟨(j.nodesOf t none none []).headD nothing, 0 < t.cost⟩
  | none => ⟨{ kind := Node.errorKind }, true⟩

end SchemaWrappers.Syntax
