import SchemaWrappers.Syntax.Automaton

/-! Tokens that cannot be looked for in the same place without changing what is found there. -/
namespace SchemaWrappers.Syntax

/-- The characters that a token may begin with, so far as they matter to other tokens. -/
inductive Opening where
  | nothing
  | characters (cs : List Char)
  | name
  | anything
  deriving Inhabited

namespace Opening

def ofToken : Token → Opening
  | .text s => .characters (s.toList.take 1)
  | .form .name => .name
  | .form .number => .characters "0123456789.".toList
  | .form .privateName | .form .interpreterLine => .characters ['#']
  | .form .comment => .characters ['/']
  | .form .escape => .characters ['\\']
  | .form f => if f.isContextual then .nothing else .anything

def allows (c : Char) : Opening → Bool
  | .nothing => false
  | .characters cs => cs.contains c
  | .name => c.isAlpha || c == '_' || c == '$'
  | .anything => true

end Opening

def Token.isWord : Token → Bool
  | .text s => !s.isEmpty && s.toList.all fun c => c.isAlpha || c == '_'
  | .form _ => false

def Form.isPiece : Form → Bool
  | .doubleQuotedText | .singleQuotedText | .patternText | .patternEnd | .patternFlags
  | .escape => true
  | _ => false

/-- Whether `a` might be found where `b` stands, given what may follow `b`. -/
def Token.supersedes (follows : Char → Bool) (a b : Token) : Bool :=
  match a, b with
  | .text a, .text b =>
    match (a.toList.drop b.length) with
    | c :: _ => b.toList.isPrefixOf a.toList && follows c
    | [] => false
  | .text _, .form .name => false
  | .form .name, .text _ => false
  | .form .comment, .text b => b == "/"
  | .form .number, .text b => b == "." && follows '5'
  | .form a, .form b => a != b && (a.isPiece || b.isPiece)
  | .form a, .text _ => a.isPiece
  | .text _, .form b => b.isPiece

private def lastTokens (p : Productions) : Array TokenSet :=
  let start := p.symbols.mapIdx fun i _ => if i < p.terminals then TokenSet.single i else 0
  let pass (lasts : Array TokenSet) : Array TokenSet := p.productions.foldl (fun lasts q =>
    match q.steps.getLast? with
    | none => lasts
    | some s => lasts.modify q.head (·.union lasts[s.symbol]!)) lasts
  (List.range 40).foldl (fun lasts _ => pass lasts) start

private def followingTokens (o : Outline) (comment : Nat) : Array TokenSet :=
  let p := o.productions
  let lasts := lastTokens p
  let terminals := List.range p.terminals
  let pairs : Std.HashSet (Nat × Nat) := p.productions.foldl (fun pairs q =>
    (q.steps.zip q.steps.tail).foldl (fun pairs (s, t) => pairs.insert (s.symbol, t.symbol)) pairs) ∅
  let start := (Array.range p.terminals).map fun t =>
    if t == comment then (1 <<< p.terminals) - 1 else TokenSet.single comment
  pairs.fold (fun follows (s, t) =>
    terminals.foldl (fun follows k =>
      if lasts[s]!.has k then follows.modify k (·.union o.firsts[t]!) else follows) follows) start

/-- For each token the tokens beside which it must not come to be looked for. -/
def clashes (o : Outline) : Array TokenSet :=
  let p := o.productions
  let tokens := (p.symbols.extract 0 p.terminals).map (·.token)
  let comment := (tokens.findIdx? (· == some (.form .comment))).getD 0
  let follows := followingTokens o comment
  let openings := tokens.map fun t => (t.map Opening.ofToken).getD .nothing
  (Array.range p.terminals).map fun i =>
    (List.range p.terminals).foldl (fun found j =>
      match tokens[i]!, tokens[j]! with
      | some a, some b =>
        let after (c : Char) : Bool :=
          (List.range p.terminals).any fun k => follows[j]!.has k && openings[k]!.allows c
        if a.supersedes after b then found.union (.single j) else found
      | _, _ => found) 0

end SchemaWrappers.Syntax
