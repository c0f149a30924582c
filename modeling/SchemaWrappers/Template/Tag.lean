import SchemaWrappers.Template.Nesting
import SchemaWrappers.Template.Phrase

namespace SchemaWrappers.Template.Reader

/-- What an expression is called where a value cannot be given to it. -/
def sort : Expr → String
  | .constant _ => "const"
  | .name _ => "name"
  | .list _ => "list"
  | .tuple _ => "tuple"
  | .table _ => "dict"
  | .field .. => "getattr"
  | .item .. | .slice .. => "getitem"
  | .call .. => "call"
  | .filter .. => "filter"
  | .test .. => "test"
  | .plus _ => "pos"
  | .minus _ => "neg"
  | .not _ => "not"
  | .operate op .. => match op with
    | .add => "add"
    | .subtract => "sub"
    | .multiply => "mul"
    | .divide => "div"
    | .quotient => "floordiv"
    | .remainder => "mod"
    | .power => "pow"
  | .join _ => "concat"
  | .both .. => "and"
  | .either .. => "or"
  | .compare .. => "compare"
  | .choose .. => "condexpr"

def unassignable (sort : String) : ReaderM α := fail s!"can't assign to {Text.quote sort}"

def target? : Nat → Expr → Option Target
  | _, .name n => some (.name n)
  | fuel + 1, .tuple es => (es.mapM (target? fuel)).map .many
  | _, _ => none

def freshName : ReaderM String := do
  let n ← anyName
  if (constants.lookup n).isSome then unassignable "name" else return n

def targetItem (entries : Bool) (fuel : Nat) : ReaderM (Option Target × String) := do
  let read : ReaderM (Option Target × String) := do
    let e ← primary fuel
    return (target? fuel e, sort e)
  if entries && isMark "." (← peekAfter) then
    match ← peek with
    | some (.name owner) =>
      if (constants.lookup owner).isSome then read
      else
        advance
        advance
        return (some (.entry owner (← anyName)), "nsref")
    | _ => read
  else read

def targetItems (entries : Bool) (stops : List String) :
    Nat → ReaderM (List (Option Target × String) × Bool)
  | 0 => tooDeep
  | fuel + 1 => do
    if endsTuple stops (← peek) then return ([], false)
    else
      let t ← targetItem entries fuel
      if ← acceptMark "," then return (t :: (← targetItems entries stops fuel).1, true)
      else return ([t], false)

/-- What a value is given to: a name, or several with commas between them. -/
def target (entries : Bool) (stops : List String) (fuel : Nat) : ReaderM Target := do
  match ← targetItems entries stops fuel with
  | ([], _) => fail s!"Expected an expression, got {Text.quote (← label)}"
  | ([(t, name)], false) => match t with
    | some t => return t
    | none => unassignable name
  | (ts, _) => match ts.mapM (·.1) with
    | some ts => return .many ts
    | none => unassignable "tuple"

def parameters : Nat → Bool → Bool → ReaderM (List Formal)
  | 0, _, _ => tooDeep
  | fuel + 1, first, fallbacks => do
    if ← acceptMark ")" then return []
    else
      if !first then demandMark ","
      let n ← freshName
      if ← acceptMark "=" then
        let e ← expr true fuel
        return ⟨n, some e⟩ :: (← parameters fuel false true)
      else if fallbacks then fail "non-default argument follows default argument"
      else return ⟨n, none⟩ :: (← parameters fuel false false)

def signature (fuel : Nat) : ReaderM (List Formal) := do
  demandMark "("
  parameters fuel true false

def isTagEnd (t : Option Token) : Bool := t matches some .tagEnd

/-- Whether names around are seen, if the tag says so with `with context` or `without context`. -/
def context? : ReaderM (Option Bool) := do
  if isName "context" (← peekAfter) then
    if ← acceptName "with" then
      advance
      return some true
    else if ← acceptName "without" then
      advance
      return some false
    else return none
  else return none

/-- The names that are taken from another template, each with the name that it goes by here, and
whether that template sees the names around. -/
def imported : Nat → Bool → ReaderM (List (String × String) × Bool)
  | 0, _ => tooDeep
  | fuel + 1, first => do
    if !first then demandMark ","
    match ← peek with
    | some (.name _) =>
      match ← context? with
      | some shared => return ([], shared)
      | none =>
        let n ← freshName
        if n.startsWith "_" then fail "names starting with an underline can not be imported"
        let ownName ← if ← acceptName "as" then freshName else pure n
        match ← context? with
        | some shared => return ([(n, ownName)], shared)
        | none =>
          if isMark "," (← peek) then
            let (more, shared) ← imported fuel false
            return ((n, ownName) :: more, shared)
          else return ([(n, ownName)], false)
    | _ => expected "name"

def isBlankPart : Part → Bool
  | .output items => items.all fun
    | .data s => !s.isEmpty && s.toList.all Text.isBlank
    | .value _ => false
  | _ => false

def tagWords : List String :=
  ["for", "if", "block", "extends", "print", "macro", "include", "from", "import", "set", "with",
    "autoescape", "call", "filter"]

def joinOutputs (items : List Item) (parts : List Part) : List Part :=
  if items.isEmpty then parts else .output items :: parts

mutual
/-- Parts up to a tag that starts with one of the words `stops`, which is taken, or to the end.
Gives the word. -/
def parts (stops : Option (List String)) (items : List Item) : Nat → ReaderM (List Part × String)
  | 0 => tooDeep
  | fuel + 1 => do
    match ← peek with
    | none =>
      if stops.isSome then failStray none else return (joinOutputs items [], "")
    | some (.data s) =>
      advance
      parts stops (items ++ [.data s]) fuel
    | some .outputStart =>
      advance
      let e ← tuple true false [] fuel
      demandOutputEnd
      parts stops (items ++ [.value e]) fuel
    | some .tagStart =>
      advance
      let ended : Option String := match ← peek with
        | some (.name n) => if stops.any (·.contains n) then some n else none
        | _ => none
      match ended with
      | some word =>
        advance
        return (joinOutputs items [], word)
      | none =>
        let p ← part fuel
        demandTagEnd
        let (ps, stop) ← parts stops [] fuel
        return (joinOutputs items (p :: ps), stop)
    | some _ => fail "internal parsing error"

def enclosed (stops : List String) : Nat → ReaderM (List Part × String)
  | 0 => tooDeep
  | fuel + 1 => do
    let _ ← acceptMark ":"
    demandTagEnd
    modify fun c => { c with sought := stops :: c.sought }
    let found ← parts (some stops) [] fuel
    modify fun c => { c with sought := c.sought.tail }
    return found

def branches : Nat → ReaderM (List (Expr × List Part) × List Part)
  | 0 => tooDeep
  | fuel + 1 => do
    let condition ← tuple false false [] fuel
    let (ps, stop) ← enclosed ["elif", "else", "endif"] fuel
    match stop with
    | "elif" =>
      let (more, otherwise) ← branches fuel
      return ((condition, ps) :: more, otherwise)
    | "else" => return ([(condition, ps)], (← enclosed ["endif"] fuel).1)
    | _ => return ([(condition, ps)], [])

def part : Nat → ReaderM Part
  | 0 => tooDeep
  | fuel + 1 => do
    match ← peek with
    | some (.name word) =>
      if tagWords.contains word then
        let here ← line
        advance
        modify fun c => { c with opened := word :: c.opened }
        let p ← tag word here fuel
        modify fun c => { c with opened := c.opened.tail }
        return p
      else failStray (some word)
    | _ => fail "tag name expected"

def tag (word : String) (here : Nat) : Nat → ReaderM Part
  | 0 => tooDeep
  | fuel + 1 => do
    let source : ReaderM Expr := expr true fuel
    match word with
    | "if" =>
      let (bs, otherwise) ← branches fuel
      return .choose bs otherwise
    | "for" =>
      let t ← target false ["in"] fuel
      demandName "in"
      let source ← tuple false false ["recursive"] fuel
      let only ← if ← acceptName "if" then pure (some (← expr true fuel)) else pure none
      let recursive ← acceptName "recursive"
      let (ps, stop) ← enclosed ["endfor", "else"] fuel
      let otherwise ← if stop == "else" then pure (← enclosed ["endfor"] fuel).1 else pure []
      return .loop t source only recursive ps otherwise
    | "set" =>
      let t ← target true [] fuel
      if ← acceptMark "=" then return .assign t (← tuple true false [] fuel)
      else
        let filter ← if ← acceptMark "|" then pure (some (← filterChain fuel none)) else pure none
        return .capture t filter (← enclosed ["endset"] fuel).1
    | "macro" =>
      let n ← freshName
      let ps ← signature fuel
      return .define n ps (← enclosed ["endmacro"] fuel).1
    | "call" =>
      let ps ← if isMark "(" (← peek) then signature fuel else pure []
      let e ← source
      match e with
      | .call .. => return .callWith ps e (← enclosed ["endcall"] fuel).1
      | _ => fail "expected call"
    | "with" =>
      let binding : ReaderM (Target × Expr) := do
        let t ← target false [] fuel
        demandMark "="
        return (t, ← expr true fuel)
      let bs ← separated isTagEnd binding fuel true
      return .bind bs (← enclosed ["endwith"] fuel).1
    | "filter" =>
      let value ← filterChain fuel none
      return .filter value (← enclosed ["endfilter"] fuel).1
    | "autoescape" =>
      let on ← source
      return .escape on (← enclosed ["endautoescape"] fuel).1
    | "block" =>
      let name ← anyName
      let sees ← acceptName "scoped"
      let required ← acceptName "required"
      if isMark "-" (← peek) then
        fail ("Block names in Jinja have to be valid Python identifiers and may not contain " ++
          "hyphens, use an underscore instead.")
      let ps := (← enclosed ["endblock"] fuel).1
      if required && !ps.all isBlankPart then
        fail "Required blocks can only contain comments or whitespace"
      let _ ← acceptName name
      return .block name sees required ps
    | "print" =>
      return .output ((← separated isTagEnd (expr true fuel) fuel true).map .value)
    | "include" =>
      let e ← source
      let optional ←
        if isName "ignore" (← peek) && isName "missing" (← peekAfter) then
          advance
          advance
          pure true
        else pure false
      return .inclusion ⟨e, (← context?).getD true, here⟩ optional
    | "import" =>
      let e ← source
      demandName "as"
      let n ← freshName
      return .importAs ⟨e, (← context?).getD false, here⟩ n
    | "from" =>
      let e ← source
      demandName "import"
      let (names, shared) ← imported fuel true
      return .importNames ⟨e, shared, here⟩ names
    | "extends" => return .extend (← source)
    | _ => failStray (some word)
end

end Reader

/-- The parts of a template that nests no deeper than the levels that there are. -/
def Part.readAll (levels : Nat) (cs : List Char) : Except Fault (List Part) := do
  let ts := Nesting.cut levels {} (tokens cs)
  let ((ps, _), _) ← (Reader.parts none [] (16 * ts.length + 64)).run { rest := ts }
  return ps

end SchemaWrappers.Template
