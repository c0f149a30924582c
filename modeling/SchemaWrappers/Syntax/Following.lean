import SchemaWrappers.Syntax.Recovery

/-! Following all readings of a text side by side until the best one has come to the end. -/
namespace SchemaWrappers.Syntax.Job
variable (j : Job)

/-- What became of a reading. -/
private inductive Turn where
  | over
  | on (state : Nat)
  | idle

/-- Does what `state` does with a token. `made` tells whether nodes were made before, `last` is the
newest of the readings that came of that. -/
private def act (v state : Nat) (token : Tree) (made : Bool) (last : Option Nat) :
    List Action → Readings → Turn × Readings
  | .shift :: _, s =>
    (.over, s.push v (some token) ((j.table.goto? state token.symbol).getD Table.faultState))
  | .pass :: _, s => (.over, s.push v (some { token with extra := true }) state)
  | .accept :: _, s => (.over, j.accept v token s)
  | .recover :: _, s => (.over, j.recover v token s)
  | .lengthen :: rest, s => act v state token made last rest s
  | .reduce r :: rest, s =>
    let (n, s) := j.reduce v r s
    act v state token true (n.or last) rest s
  | [], s =>
    match last with
    | some n =>
      let s := s.moveTo n v
      (.on (s.state v), s)
    | none => if made then (.over, s.setStatus v .ended) else (.idle, s)

/-- Makes nodes before a token until it is taken or nothing can be done with it. A word with which
nothing can be done is a name. -/
private def advanceWith (v : Nat) (token : Tree) (s : Readings) : Readings := Id.run do
  let mut s := s
  let mut token := token
  let mut actions := j.table.actionsOn (s.state v) token.symbol
  for _ in [0 : (s.joints.size + 2) * j.table.productions.symbols.size] do
    let (turn, s') := j.act v (s.state v) token false none actions s
    s := s'
    match turn with
    | .over => return s
    | .on state => actions := j.table.actionsOn state token.symbol
    | .idle =>
      let asName := if token.word && token.symbol != Productions.word then
          j.table.actionsOn (s.state v) Productions.word
        else []
      if asName.isEmpty then
        let count := (s.top v).count
        return s.setHead v { s.head v with status := .waiting token, countAtFault := count }
      token := Tree.asSymbol j.table.productions token Productions.word
      actions := asName
  return s.setStatus v .ended

/-- Takes the next token of a reading. -/
def advance (v : Nat) (s : Readings) : Readings := j.advanceWith v (j.scan s v) s

/-- Lets each reading go on until it has come further than those before it. -/
private def advanceAll (far : Nat) (s : Readings) : Nat × Bool × Readings := Id.run do
  let mut s := s
  let mut far := far
  let mut v := 0
  for _ in [0 : 1000000] do
    if s.heads.size ≤ v then break
    let own := v
    for _ in [0 : 4 * j.text.size + 1000] do
      if !(s.head own).status.isActive then break
      s := j.advance own s
      let place := s.place own
      if far < place || (0 < own && place == far) then
        far := place
        break
    v := own + 1
  return (far, s.heads.isEmpty, s)

private def swapHeads (a b : Nat) (s : Readings) : Readings :=
  { s with heads := s.heads.swapIfInBounds a b }

/-- Compares a reading with those before it. Gives the number of the next one to be compared. -/
private def weed (i : Nat) (own : Standing) (s : Readings) : Nat × Readings := Id.run do
  let mut s := s
  let mut i := i
  let mut k := 0
  for _ in [0 : i] do
    if i ≤ k then break
    let a := k
    let b := i
    let (other, s') := s.standing a
    s := s'
    match other.compare own with
    | .dropSecond => return (b, s.remove b)
    | .preferFirst | .neither =>
      let (merged, s') := s.merge a b
      s := s'
      if merged then return (b, s)
      k := a + 1
    | .preferSecond =>
      let (merged, s') := s.merge a b
      s := s'
      if merged then return (b, s)
      s := swapHeads a b s
      k := a + 1
    | .dropFirst =>
      s := s.remove a
      i := b - 1
  return (i + 1, s)

/-- Drops the readings that are not worth following. Gives the least cost of one that passes no
fault, if there is one. -/
private def weedAll (s : Readings) : Option Nat × Readings := Id.run do
  let mut s := s
  let mut least : Option Nat := none
  let mut i := 0
  for _ in [0 : s.heads.size] do
    if s.heads.size ≤ i then break
    let own := i
    if (s.head own).status.isEnded then s := s.remove own
    else
      let (standing, s') := s.standing own
      if !standing.atFault then
        least := some (least.elim standing.cost (min standing.cost))
      let (next, s'') := weed own standing s'
      s := s''
      i := next
  return (least, { s with heads := s.heads.extract 0 Readings.most })

/-- The first reading that waits before any that goes on begins to pass its fault; others that wait are
dropped. -/
private def resume (least : Option Nat) (s : Readings) : Option Nat × Readings := Id.run do
  let mut s := s
  let mut least := least
  let mut going := false
  let mut i := 0
  for _ in [0 : s.heads.size] do
    let own := i
    match (s.head own).status with
    | .waiting token =>
      if !going && s.finishes < Readings.most then
        least := some (s.costOf own)
        s := j.beginRecovery own token (s.setStatus own .active)
        going := true
        i := own + 1
      else s := s.remove own
    | _ =>
      going := true
      i := own + 1
  return (least, s)

def bestTree : Option Tree := Id.run do
  let mut s := Readings.start Table.startState
  let mut far := 0
  for _ in [0 : 1000 * (j.text.size + 1)] do
    let (far', none_, s') := j.advanceAll far s
    far := far'
    let (least, s'') := weedAll s'
    let (least, s''') := j.resume least s''
    s := s'''
    match s.finished, least with
    | some t, some cost => if t.cost < cost then return some t
    | some t, none => return some t
    | none, _ => pure ()
    if none_ then return s.finished
  return s.finished

end SchemaWrappers.Syntax.Job
