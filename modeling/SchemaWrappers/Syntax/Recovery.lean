import SchemaWrappers.Syntax.Reducing

/-! Going on behind a fault: by a token that is missing, from an earlier state, or by skipping what
follows. -/
namespace SchemaWrappers.Syntax.Job
variable (j : Job)

/-- What a reading can do: whether it can take one of some tokens, and the nodes that it can make
before one. -/
private def prospects (state : Nat) (tokens : List Nat) : Bool × List Reduction :=
  tokens.foldl (fun found t => (j.table.actionsOn state t).foldl (fun (takes, rs) a =>
    match a with
    | .shift | .recover => (true, rs)
    | .reduce r =>
      if r.count == 0 || rs.any fun x => x.head == r.head && x.count == r.count then (takes, rs)
      else (takes, rs ++ [r])
    | _ => (takes, rs)) found) (false, [])

private def stepBound : Nat := 100000

/-- Makes all nodes that can be made on the stacks of the readings from `start` on before a token, or
before any if it is the end of the text. Readings that cannot take the one token are dropped; tells
whether a reading can go on. -/
def reduceAhead (start token : Nat) (s : Readings) : Bool × Readings := Id.run do
  let initial := s.heads.size
  let mut s := s
  let mut can := false
  let mut v := start
  let mut moves := 0
  for _ in [0 : stepBound] do
    let size := s.heads.size
    if size ≤ v then break
    let own := v
    let earlier := (List.range own).filter (initial ≤ ·)
    let (merged, s') := mergeInto s own own earlier
    s := s'
    if merged then moves := moves + 1
    else
      let state := s.state own
      let tokens := if token != 0 then [token]
        else ((j.table.valid state).toList j.table.productions.terminals).filter (· != 0)
      let (takes, reductions) := j.prospects state tokens
      let mut last : Option Nat := none
      for r in reductions do
        let (n, s') := j.reduce own r s
        s := s'
        last := n
      if takes then can := true
      let again := !takes && last.isSome && moves < Readings.most
      if again then s := s.moveTo (last.getD own) own
      else
        if !takes && token != 0 then s := s.remove own
        v := if own == start then size else own + 1
      moves := moves + 1
  return (can, s)

/-- Goes on as if a token had been there, the first after which `lookahead` makes sense; tells whether
there is one. -/
private def supplyToken (v : Nat) (lookahead : Nat) (s : Readings) : Bool × Readings := Id.run do
  let p := j.table.productions
  let state := s.state v
  if state == Table.faultState then return (false, s)
  let valid := j.table.valid state
  let mut s := s
  for m in [1 : p.terminals] do
    if valid.has m then
      let next := j.table.next state m
      if next != Table.faultState && next != state then
        match j.table.actionsOn next lookahead with
        | .reduce _ :: _ =>
          let made := s.heads.size
          s := (s.duplicate v).push made (some (Tree.absent p m (s.place v))) next
          let (can, s') := j.reduceAhead made lookahead s
          s := s'
          if can then return (true, s)
        | _ => pure ()
  return (false, s)

/-- Takes trees off a stack to go on from an earlier state, the trees being text without sense. -/
private def goBack (v depth goal : Nat) (s : Readings) : Bool × Readings := Id.run do
  let initial := s.heads.size
  let taken := s.takeOff v depth
  let mut s := branchAll v taken s
  let mut any := false
  for k in [0 : taken.size] do
    let own := initial + k
    if s.state own != goal then s := s.setStatus own .ended
    else
      let row := ((taken[k]!).2[0]?).getD []
      let mut earlier : List Tree := []
      match s.takeFault own with
      | some (t, s') =>
        s := s'
        earlier := t.parts
      | none => pure ()
      let (parts, behind) := Tree.splitExtras (earlier ++ row)
      if !parts.isEmpty then
        let fault := Tree.node j.table.productions j.text Tree.faultSymbol 0 parts none
        s := s.push own (some { fault with extra := true }) goal
      for t in behind do s := s.push own (some t) goal
      any := true
  return (any, s)

private def dropInactive (start : Nat) (s : Readings) : Readings :=
  { s with heads := (s.heads.zipIdx.filter fun (h, k) => k < start || h.status.isActive).map (·.1) }

/-- Goes back to the nearest earlier state that can do something with a token, unless another
reading is better than this one would be. -/
private def goBackFor (v : Nat) (token : Tree) (since : Nat) (s : Readings) : Bool × Readings :=
    Id.run do
  let size := s.heads.size
  let place := s.place v
  let cost := s.costOf v
  let text := j.text
  let mut s := s
  for l in (s.head v).landings do
    if l.state == Table.faultState || l.place == place then continue
    let depth := if 0 < since then l.depth + 1 else l.depth
    let taken := (List.range size).any fun k => s.state k == l.state && s.place k == place
    if taken then continue
    let price := cost + l.depth * prices.skippedNode +
      (text.offset place - text.offset l.place) * prices.skippedByte +
      (text.row place - text.row l.place) * prices.skippedRow
    let (better, s') := s.hasBetter v price
    s := s'
    if better then break
    if !(j.table.actionsOn l.state token.symbol).isEmpty then
      let (done, s') := j.goBack v depth l.state s
      s := s'
      if done then return (true, s)
  return (false, s)

/-- Skips a token, which becomes a part of the text without sense. -/
private def skipToken (v : Nat) (token : Tree) (since : Nat) (s : Readings) : Readings := Id.run do
  let p := j.table.productions
  let isExtra := match j.table.actionsOn Table.faultState token.symbol with
    | [.pass] => true
    | _ => false
  let token := if isExtra then { token with extra := true } else token
  let skipped := Tree.node p j.text Tree.skippedSymbol 0 [token] none
  if since == 0 then return s.push v (some skipped) Table.faultState
  let size := s.heads.size
  let taken := s.takeOff v 1
  match taken[0]? with
  | none => return s.push v (some skipped) Table.faultState
  | some (joint, rows) =>
    let s := (s.branch v joint).moveTo size v
    let all := Tree.node p j.text Tree.skippedSymbol 0 ((rows[0]?.getD []) ++ [skipped]) none
    return s.push v (some all) Table.faultState

/-- Goes on behind a fault in all ways that may be worth it. -/
def recover (v : Nat) (token : Tree) (s : Readings) : Readings := Id.run do
  let size := s.heads.size
  let (since, s') := s.countSince v
  let mut s := s'
  let cost := s.costOf v
  let mut wentBack := false
  if !(s.head v).landings.isEmpty && token.symbol != Tree.faultSymbol then
    (wentBack, s) := j.goBackFor v token since s
  s := dropInactive size s
  if token.symbol == 0 then
    let fault := Tree.node j.table.productions j.text Tree.faultSymbol (s.place v) [] none
    return j.accept v token (s.push v (some fault) Table.startState)
  if wentBack && Readings.most < s.heads.size then return s.setStatus v .ended
  let text := j.text
  let price := cost + prices.skippedNode +
    (text.offset token.stop - text.offset token.before) * prices.skippedByte +
    (text.row token.stop - text.row token.before) * prices.skippedRow
  let (better, s') := s.hasBetter v price
  if better then return s'.setStatus v .ended
  return j.skipToken v token since s'

/-- Begins to go on behind a fault: every node that can be made is made first. -/
def beginRecovery (v : Nat) (token : Tree) (s : Readings) : Readings := Id.run do
  let first := s.heads.size
  let (_, s') := j.reduceAhead v 0 s
  let mut s := s'
  let last := s.heads.size
  let mut supplied := false
  for own in v :: (List.range last).filter (first ≤ ·) do
    if !supplied then
      (supplied, s) := j.supplyToken own token.symbol s
    s := s.push own none Table.faultState
  for _ in [first : last] do
    s := (s.merge v first).2
  return j.recover v token (s.noteLandings v)

end SchemaWrappers.Syntax.Job
