import SchemaWrappers.Syntax.Scan

namespace SchemaWrappers.Syntax.Job
variable (j : Job)

/-- A new reading at each joint, of one from whose stack trees were taken. -/
def branchAll (v : Nat) (taken : Array (Nat × Array Taken)) (s : Readings) : Readings :=
  taken.foldl (fun s (joint, _) => s.branch v joint) s

/-- The best node that can be made of rows of trees, and the trees behind it that stand anywhere. -/
private def bestNode (r : Reduction) (place : Nat) (rows : Array Taken) : Tree × List Tree :=
  let make (row : Taken) : Tree × List Tree :=
    let (parts, behind) := Tree.splitExtras row
    (Tree.node j.table.productions j.text r.head place parts (some r.production), behind)
  match rows.toList with
  | [] => make []
  | row :: rows => rows.foldl (fun best row =>
      let other := make row
      if Tree.isBetter best.1 other.1 then other else best) (make row)

/-- Merges a reading into one of the first ones other than `except`. -/
def mergeInto (s : Readings) (except v : Nat) : List Nat → Bool × Readings
  | [] => (false, s)
  | k :: ks =>
    if k == except then mergeInto s except v ks
    else
      match s.merge k v with
      | (true, s) => (true, s)
      | (false, s) => mergeInto s except v ks

/-- Makes nodes in all ways that the stack of a reading allows. The first of the new readings is
given, if any are left. -/
def reduce (v : Nat) (r : Reduction) (s : Readings) : Option Nat × Readings := Id.run do
  let initial := s.heads.size
  let ended := s.heads.foldl (fun n h => if h.status.isEnded then n + 1 else n) 0
  let taken := s.takeOff v r.count
  let mut s := branchAll v taken s
  let mut gone := 0
  for k in [0 : taken.size] do
    let own := initial + k - gone
    if Readings.most + 4 + ended < own then
      s := s.remove own
      gone := gone + 1
    else
      let (node, behind) := j.bestNode r (s.place own) (taken[k]!).2
      let next := j.table.next (s.state own) r.head
      s := s.push own (some { node with weight := node.weight + r.weight }) next
      for t in behind do s := s.push own (some t) next
      let (merged, s') := mergeInto s v own (List.range own)
      s := s'
      if merged then gone := gone + 1
  return (if initial < s.heads.size then some initial else none, s)

/-- The tree of a whole text: that of the last part that does not stand anywhere, with all others
around its own parts. -/
private def wholeTree (row : Taken) : Option Tree :=
  let r := row.reverse
  match r.dropWhile (·.extra) with
  | [] => none
  | main :: before =>
    let parts := before.reverse ++ main.parts ++ (r.takeWhile (·.extra)).reverse
    some (Tree.node j.table.productions j.text main.symbol 0 parts main.production)

def accept (v : Nat) (ending : Tree) (s : Readings) : Readings :=
  let s := s.push v (some ending) Table.startState
  let rows := (s.takeAll v).foldl (fun rows (_, more) => rows ++ more) #[]
  let s := rows.foldl (fun s row =>
    let s := { s with finishes := s.finishes + 1 }
    match j.wholeTree row, s.finished with
    | some t, none => { s with finished := some t }
    | some t, some old => if Tree.isBetter old t then { s with finished := some t } else s
    | none, _ => s) s
  s.setStatus v .ended

end SchemaWrappers.Syntax.Job
