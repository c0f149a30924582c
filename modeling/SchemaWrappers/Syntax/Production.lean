import Std.Data.HashMap
import Std.Data.HashSet
import SchemaWrappers.Syntax.Rule

/-! The productions of a grammar: every way in which a rule can be a row of symbols. Repetition is
a rule of its own, which stands for two of itself or for what is repeated. -/
namespace SchemaWrappers.Syntax

/-- Told by what stands around it, and not by its own characters alone. -/
def Form.isContextual : Form → Bool
  | .lineEnd | .templateText | .questionMark | .pageComment | .signatureEnd => true
  | _ => false

def Form.contextKind : Form → Option String
  | .pageComment => some "html_comment"
  | _ => none

namespace Rule

/-- The tokens of a rule from left to right, those apart that their surroundings tell. -/
def tokens : Rule → List Token
  | .text s => [.text s]
  | .form f => if f.isContextual then [] else [.form f]
  | .both a b | .either a b => a.tokens ++ b.tokens
  | .repeated r | .rank _ r | .side _ r | .label _ r | .place _ r | .weight _ r => r.tokens
  | .blank | .ref _ => []

/-- Puts names in the place of repetitions. What is repeated keeps its name wherever it occurs. -/
def unroll (head : String) : Rule → StateM (Array (Rule × String)) Rule
  | .repeated r => do
    let r ← unroll head r
    let made ← get
    match made.find? (·.1 == r) with
    | some (_, name) => return .ref name
    | none =>
      let name := s!"{head} {made.size}"
      set (made.push (r, name))
      return .ref name
  | .both a b => return .both (← unroll head a) (← unroll head b)
  | .either a b => return .either (← unroll head a) (← unroll head b)
  | .rank k r => return .rank k (← unroll head r)
  | .side s r => return .side s (← unroll head r)
  | .label l r => return .label l (← unroll head r)
  | .place n r => return .place n (← unroll head r)
  | .weight n r => return .weight n (← unroll head r)
  | r => return r

end Rule

/-- A symbol of a production, with what the rule says about it in this place. -/
structure Step where
  symbol : Nat
  rank : Option Rank := none
  side : Option Side := none
  label : Option Label := none
  place : Option String := none
  deriving BEq, Hashable, Inhabited

structure Production where
  head : Nat
  weight : Int
  steps : List Step
  deriving BEq, Hashable, Inhabited

/-- A token or the head of a rule. A concealed head is never a node of its own, `shown` tells of
nodes, and `label` is the kind under which a symbol is always shown. -/
structure Symbol where
  kind : String
  token : Option Token := none
  shown : Bool := true
  named : Bool := true
  concealed : Bool := false
  wide : Bool := false
  repetition : Bool := false
  label : Option Label := none
  deriving Inhabited

/-- The symbols of a grammar, tokens first, and their productions in the order of their heads.
Token 0 is the end of the text, token 1 is `word`, the token of names. `written` numbers the symbols
in the order in which the grammar is written. -/
structure Productions where
  symbols : Array Symbol
  terminals : Nat
  productions : Array Production
  ofHead : Array (Array Nat)
  written : Array Nat
  grammar : Grammar

namespace Productions

def word : Nat := 1

/-- What a part of a rule takes over from the parts around it. -/
private structure Around where
  rank : Option Rank := none
  side : Option Side := none
  label : Option Label := none
  place : Option String := none

private def heavier (a b : Int) : Int := if a.natAbs < b.natAbs then b else a

private def leave (atEnd : Bool) (f : Step → Step) (row : List Step × Int) : List Step × Int :=
  if atEnd then row
  else match row.1.reverse with
    | [] => row
    | last :: before => ((f last :: before).reverse, row.2)

private def alternatives (symbolOf : Rule → Nat) (c : Around) (atEnd : Bool) :
    Rule → List (List Step × Int)
  | .blank => [([], 0)]
  | .both a b =>
    let rest := alternatives symbolOf c atEnd b
    (alternatives symbolOf c false a).flatMap fun x =>
      rest.map fun y => (x.1 ++ y.1, heavier x.2 y.2)
  | .either a b => alternatives symbolOf c atEnd a ++ alternatives symbolOf c atEnd b
  | .rank k r =>
    (alternatives symbolOf { c with rank := some k } atEnd r).map
      (leave atEnd fun s => { s with rank := c.rank })
  | .side k r =>
    (alternatives symbolOf { c with side := some k } atEnd r).map
      (leave atEnd fun s => { s with side := c.side })
  | .label l r => alternatives symbolOf { c with label := some l } atEnd r
  | .place n r => alternatives symbolOf { c with place := some n } atEnd r
  | .weight n r => (alternatives symbolOf c atEnd r).map fun x => (x.1, heavier n x.2)
  | .repeated r => alternatives symbolOf c atEnd r
  | r => [([⟨symbolOf r, c.rank, c.side, c.label, c.place⟩], 0)]

private def firsts [BEq α] [Hashable α] (xs : List α) : List α :=
  (xs.foldl (fun (seen, kept) x => if seen.contains x then (seen, kept) else (seen.insert x, x :: kept))
    ((∅ : Std.HashSet α), [])).2.reverse

private def uses (g : Grammar) : Std.HashMap Token Nat :=
  (g.rules.flatMap (·.2.tokens)).foldl (fun m t => m.insert t (m.getD t 0 + 1)) ∅

/-- The rules that are no more than a token which nothing else mentions; the token bears their
name. -/
private def tokenRule? (g : Grammar) (count : Std.HashMap Token Nat) : String × Rule → Option Token
  | (name, r) =>
    let t := match r with
      | .text s => some (Token.text s)
      | .form f => if f.isContextual then none else some (Token.form f)
      | _ => none
    t.filter fun t => g.rules.head?.any (·.1 != name) && count.getD t 0 == 1

private def contextForms : List Form :=
  [.lineEnd, .templateText, .questionMark, .pageComment, .signatureEnd]

private def tokenSymbol (names : Std.HashMap Token String) (t : Token) : Symbol :=
  match t, names[t]? with
  | _, some kind => { kind, token := some t }
  | .text s, none => { kind := s, token := some t, named := false }
  | .form f, none =>
    if f.isContextual then
      { kind := f.contextKind.getD "", token := some t, shown := f.contextKind.isSome }
    else { kind := "/", token := some t, named := false }

private def headSymbol (g : Grammar) (repetition : Bool) (name : String) : Symbol :=
  let concealed := repetition || name.startsWith "_"
  let wide := g.wide.contains name
  { kind := name, shown := !(concealed || wide), concealed, wide, repetition }

/-- The label that all occurrences of a symbol have most often, unless one has none. -/
private def usualLabel (bare : Std.HashSet Nat) (labels : Std.HashMap Nat (List Label)) (s : Nat) :
    Option Label :=
  if bare.contains s then none
  else
    let all := (labels.getD s []).reverse
    (firsts all).foldl (fun best l =>
      match best with
      | none => some l
      | some b => if all.count b < all.count l then some l else some b) none

/-- Whether a step can do without its label because its symbol is always shown so. No other
production of the head may need the label in the same place. -/
private def isUsual (usual : Array (Option Label)) (rows : Array Production) (own : Nat)
    (s : Step) (k : Nat) : Bool :=
  s.label.isSome && usual[s.symbol]! == s.label &&
    !(rows.zipIdx.any fun (p, i) => i != own &&
      match p.steps[k]? with
      | some t => t.label == s.label && usual[t.symbol]! != s.label
      | none => false)

private def withoutUsual (usual : Array (Option Label)) (rows : Array Production) :
    Array Production :=
  rows.mapIdx fun i p =>
    { p with steps := p.steps.zipIdx.map fun (s, k) =>
        if isUsual usual rows i s k then { s with label := none } else s }

/-- The rules without repetitions, and the repetitions with their names. -/
private def unrollAll (rules : List (String × Rule)) :
    List (String × Rule) × Array (Rule × String) :=
  let one (entry : String × Rule) : StateM (Array (Rule × String)) (String × Rule) := do
    return (entry.1, ← entry.2.unroll entry.1)
  Id.run ((rules.mapM one).run #[])

def ofGrammar (g : Grammar) : Productions :=
  let count := uses g
  let mentioned := firsts (g.rules.flatMap (·.2.tokens))
  let names : Std.HashMap Token String := Std.HashMap.ofList <|
    g.rules.filterMap fun r => (tokenRule? g count r).map (·, r.1)
  let tokenOf : Std.HashMap String Token := Std.HashMap.ofList <|
    g.rules.filterMap fun r => (tokenRule? g count r).map (r.1, ·)
  let name := Token.form .name
  let tokens := name :: mentioned.filter (· != name) ++ contextForms.map .form
  let terminals := tokens.length + 1
  let tokenIds : Std.HashMap Token Nat := Std.HashMap.ofList (tokens.zipIdx 1)
  let rules := g.rules.filter fun r => !tokenOf.contains r.1
  let (unrolled, made) := unrollAll rules
  let repetitions := made.toList.map fun (r, n) => (n, Rule.either (.both (.ref n) (.ref n)) r)
  let all := unrolled ++ repetitions
  let headIds : Std.HashMap String Nat := Std.HashMap.ofList ((all.map (·.1)).zipIdx terminals)
  let symbolOf : Rule → Nat
    | .text s => tokenIds.getD (.text s) 0
    | .form f => tokenIds.getD (.form f) 0
    | .ref n => match tokenOf[n]? with
      | some t => tokenIds.getD t 0
      | none => headIds.getD n 0
    | _ => 0
  let inlining (n : String) : Option Rule :=
    if g.inlined.contains n then (all.find? (·.1 == n)).map (·.2) else none
  let rows := all.toArray.mapIdx fun i (n, r) =>
    if g.inlined.contains n then #[]
    else
      let r := g.inlined.foldl (fun r _ => r.substitute inlining) r
      ((firsts (alternatives symbolOf {} true r)).map fun (steps, weight) =>
        (⟨terminals + i, weight, steps⟩ : Production)).toArray
  let steps := rows.toList.flatMap fun ps => ps.toList.flatMap (·.steps)
  let anywhere := g.anywhere.map fun f => tokenIds.getD (.form f) 0
  let bare := Std.HashSet.ofList ((steps.filter (·.label.isNone)).map (·.symbol) ++ anywhere)
  let labels := steps.foldl (fun m s =>
    match s.label with
    | some l => m.insert s.symbol (l :: m.getD s.symbol [])
    | none => m) (∅ : Std.HashMap Nat (List Label))
  let ending : Symbol := { kind := "end", shown := false, named := false }
  let symbols := ((ending :: tokens.map (tokenSymbol names)) ++
    unrolled.map (headSymbol g false ·.1) ++ repetitions.map (headSymbol g true ·.1)).toArray
  let usual := symbols.mapIdx fun i _ => usualLabel bare labels i
  let rows := rows.map (withoutUsual usual)
  let starts := rows.foldl (fun (at_, n) ps => (at_.push n, n + ps.size)) (#[], 0)
  let order := contextForms.map .form ++ mentioned
  { symbols := symbols.mapIdx fun i s => { s with label := usual[i]! }
    terminals
    productions := rows.foldl (· ++ ·) #[]
    ofHead := rows.mapIdx fun i ps => (Array.range ps.size).map (· + starts.1[i]!)
    written := symbols.mapIdx fun i s =>
      match s.token with
      | some t => 2 * (order.idxOf t + 1)
      | none => if i == 0 then 2 * contextForms.length + 1 else 2 * symbols.size + i
    grammar := g }

end Productions
end SchemaWrappers.Syntax
