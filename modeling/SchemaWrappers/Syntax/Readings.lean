import SchemaWrappers.Syntax.Tree

/-! The readings of a text that are being followed. Their stacks of trees share what lies below, and
meet again where they have come to the same. -/
namespace SchemaWrappers.Syntax

/-- A level of a stack: the state reached at a place, and the ways that led there, each with the
level below and the tree on it, if any. The sums are those of the dearest way. -/
structure Joint where
  state : Nat
  place : Nat
  cost : Nat := 0
  weight : Int := 0
  count : Nat := 0
  links : Array (Nat × Option Tree) := #[]
  deriving Inhabited

/-- A place to which a reading may go back: how many trees lie above it, and its state. -/
structure Landing where
  place : Nat
  depth : Nat
  state : Nat

/-- A reading goes on, waits at a token with which it can do nothing, or has ended. -/
inductive Status where
  | active
  | waiting (token : Tree)
  | ended
  deriving Inhabited

namespace Status

def isActive : Status → Bool
  | .active => true
  | _ => false

def isWaiting : Status → Bool
  | .waiting _ => true
  | _ => false

def isEnded : Status → Bool
  | .ended => true
  | _ => false

end Status

/-- The top of a stack. -/
structure Head where
  joint : Nat
  countAtFault : Nat := 0
  status : Status := .active
  landings : List Landing := []
  deriving Inhabited

structure Readings where
  joints : Array Joint
  heads : Array Head
  finished : Option Tree := none
  finishes : Nat := 0
  deriving Inhabited

/-- How a reading stands: what it cost, the nodes read since its last fault, how welcome it is, and
whether it is passing a fault. -/
structure Standing where
  cost : Nat
  count : Nat
  weight : Int
  atFault : Bool

/-- Which of two readings is to go on: `drop` the other one, or `prefer` one if they meet. -/
inductive Verdict where
  | dropSecond
  | preferFirst
  | neither
  | preferSecond
  | dropFirst
  deriving BEq

namespace Standing

/-- The difference in cost from which on a reading is given up. -/
def patience : Nat := 1800

def compare (a b : Standing) : Verdict :=
  if !a.atFault && b.atFault then if a.cost < b.cost then .dropSecond else .preferFirst
  else if a.atFault && !b.atFault then if b.cost < a.cost then .dropFirst else .preferSecond
  else if a.cost < b.cost then
    if patience < (b.cost - a.cost) * (1 + a.count) then .dropSecond else .preferFirst
  else if b.cost < a.cost then
    if patience < (a.cost - b.cost) * (1 + b.count) then .dropFirst else .preferSecond
  else if b.weight < a.weight then .preferFirst
  else if a.weight < b.weight then .preferSecond
  else .neither

end Standing

/-- A row of trees taken off a stack, the lowest first. -/
abbrev Taken := List Tree

/-- A walk down a stack: the trees met so far, the last first, and how many of them count. -/
structure Descent where
  joint : Nat
  trees : Taken := []
  depth : Nat := 0
  deriving Inhabited

def Descent.along (d : Descent) (l : Nat × Option Tree) : Descent :=
  match l with
  | (joint, some t) => ⟨joint, t :: d.trees, if t.extra then d.depth else d.depth + 1⟩
  | (joint, none) => ⟨joint, d.trees, d.depth + 1⟩

namespace Readings

/-- The most readings that are followed. -/
def most : Nat := 6

/-- The most ways that lead to one joint. -/
def mostLinks : Nat := 8

/-- The most ways down a stack that are followed. -/
def mostDescents : Nat := 64

def start (state : Nat) : Readings :=
  { joints := #[{ state, place := 0 }], heads := #[{ joint := 0 }] }

def head (s : Readings) (v : Nat) : Head := s.heads[v]!

def top (s : Readings) (v : Nat) : Joint := s.joints[(s.head v).joint]!

def state (s : Readings) (v : Nat) : Nat := (s.top v).state

def place (s : Readings) (v : Nat) : Nat := (s.top v).place

def setHead (s : Readings) (v : Nat) (h : Head) : Readings := { s with heads := s.heads.set! v h }

def setStatus (s : Readings) (v : Nat) (status : Status) : Readings :=
  s.setHead v { s.head v with status }

/-- Puts a tree onto a stack. Without one, a fault begins there. -/
def push (s : Readings) (v : Nat) (tree : Option Tree) (state : Nat) : Readings :=
  let h := s.head v
  let below := s.joints[h.joint]!
  let joint : Joint := match tree with
    | some t => {
        state, place := t.stop, cost := below.cost + t.cost, weight := below.weight + t.weight
        count := below.count + t.count, links := #[(h.joint, some t)] }
    | none => {
        state, place := below.place, cost := below.cost, weight := below.weight
        count := below.count, links := #[(h.joint, none)] }
  let h := { h with
    joint := s.joints.size
    countAtFault := if tree.isNone then joint.count else h.countAtFault }
  { s with joints := s.joints.push joint, heads := s.heads.set! v h }

def remove (s : Readings) (v : Nat) : Readings := { s with heads := s.heads.eraseIdxIfInBounds v }

def branch (s : Readings) (v joint : Nat) : Readings :=
  { s with heads := s.heads.push { joint, countAtFault := (s.head v).countAtFault } }

def duplicate (s : Readings) (v : Nat) : Readings :=
  { s with heads := s.heads.push { s.head v with landings := [] } }

/-- Puts a reading in the place of another. -/
def moveTo (s : Readings) (source target : Nat) : Readings :=
  if source == target then s
  else
    let h := s.head source
    let h := if h.landings.isEmpty then { h with landings := (s.head target).landings } else h
    (s.setHead target h).remove source

private def alikeTrees : Option Tree → Option Tree → Bool
  | none, none => true
  | some a, some b => a.alike b
  | _, _ => false

private def addLink : Nat → Array Joint → Nat → Nat × Option Tree → Array Joint
  | 0, joints, _, _ => joints
  | fuel + 1, joints, own, (other, tree) =>
    if other == own then joints
    else
      let j := joints[own]!
      let o := joints[other]!
      let meets (k : Nat) : Bool :=
        let x := joints[k]!
        x.state == o.state && x.place == o.place && x.cost == o.cost
      let weight := o.weight + (tree.map (·.weight)).getD 0
      match j.links.findIdx? fun (k, t) => alikeTrees t tree && (k == other || meets k) with
      | some i =>
        let (k, t) := j.links[i]!
        if k == other then
          match t, tree with
          | some old, some new =>
            if old.weight < new.weight then
              joints.set! own { j with links := j.links.set! i (k, tree), weight }
            else joints
          | _, _ => joints
        else
          let joints := o.links.foldl (fun js l => addLink fuel js k l) joints
          joints.modify own fun j => { j with weight := max j.weight weight }
      | none =>
        if j.links.size == mostLinks then joints
        else
          let count := o.count + (tree.map (·.count)).getD 0
          joints.set! own { j with
            links := j.links.push (other, tree)
            count := max j.count count
            weight := max j.weight weight }

def canMerge (s : Readings) (a b : Nat) : Bool :=
  (s.head a).status.isActive && (s.head b).status.isActive &&
    let x := s.top a
    let y := s.top b
    x.state == y.state && x.place == y.place && x.cost == y.cost

/-- Makes one of two readings that have come to the same, if they have. -/
def merge (s : Readings) (a b : Nat) : Bool × Readings :=
  if s.canMerge a b then
    let own := (s.head a).joint
    let links := (s.top b).links
    let joints := s.joints
    let s := { s with joints := #[] }
    let joints := links.foldl (fun js l => addLink js.size js own l) joints
    let s := ({ s with joints }).remove b
    if s.state a == Table.faultState then
      (true, s.setHead a { s.head a with countAtFault := (s.top a).count })
    else (true, s)
  else (false, s)

/-- Adds what a descent ended with to those that ended at the same joint. -/
private def collect (found : Array (Nat × Array Taken)) (d : Descent) : Array (Nat × Array Taken) :=
  match found.findIdx? (·.1 == d.joint) with
  | some i => found.modify i fun (j, all) => (j, all.push d.trees)
  | none => found.push (d.joint, #[d.trees])

/-- Walks down a stack on all ways at once, level by level. `visit` is asked at every joint
whether to take the trees met so far, and whether to stop. -/
def descend {σ : Type} (s : Readings) (v : Nat) (visit : σ → Joint → Descent → Bool × Bool × σ)
    (first : σ) : Array (Nat × Array Taken) × σ := Id.run do
  let mut memory := first
  let mut found := #[]
  let mut open_ : Array Descent := #[{ joint := (s.head v).joint }]
  for _ in [0 : s.joints.size + 1] do
    if open_.isEmpty then break
    let mut kept : Array Descent := #[]
    let mut added : Array Descent := #[]
    for k in [0 : open_.size] do
      let d := open_[k]!
      let joint := s.joints[d.joint]!
      let (take, stop, memory') := visit memory joint d
      memory := memory'
      if take then found := collect found d
      if !stop then
        for i in [1 : joint.links.size] do
          if kept.size + (open_.size - k) + added.size < mostDescents then
            added := added.push (d.along joint.links[i]!)
        match joint.links[0]? with
        | some l => kept := kept.push (d.along l)
        | none => pure ()
    open_ := kept ++ added
  return (found, memory)

/-- Takes a number of trees off a stack, in all ways, by the joint that is reached. -/
def takeOff (s : Readings) (v count : Nat) : Array (Nat × Array Taken) :=
  (s.descend v (fun () _ d => (d.depth == count, d.depth == count, ())) ()).1

/-- Takes all trees off a stack, in all ways. -/
def takeAll (s : Readings) (v : Nat) : Array (Nat × Array Taken) :=
  (s.descend v (fun () j _ => (j.links.isEmpty, false, ())) ()).1

/-- Takes the text that makes no sense off the top of a stack. -/
def takeFault (s : Readings) (v : Nat) : Option (Tree × Readings) :=
  let isFault (t : Tree) : Bool := t.symbol == Tree.faultSymbol
  if (s.top v).links.any fun (_, t) => t.any isFault then
    let (found, _) := s.descend v (fun done _ d =>
      match d.trees with
      | t :: _ => if !done && isFault t then (true, true, true) else (false, true, done)
      | [] => (false, false, done)) false
    match found[0]? with
    | some (joint, taken) =>
      match taken[0]? with
      | some (t :: _) => some (t, (s.branch v joint).moveTo s.heads.size v)
      | _ => none
    | none => none
  else none

/-- The depth down to which a reading may go back. -/
def deepest : Nat := 16

/-- Notes the states below a reading to which it may go back. -/
def noteLandings (s : Readings) (v : Nat) : Readings :=
  let (_, found) := s.descend v (fun (found : List Landing) j d =>
    if deepest < d.depth then (false, true, found)
    else if (found.takeWhile (d.depth ≤ ·.depth)).any fun l =>
        l.depth == d.depth && l.state == j.state then (false, false, found)
    else (false, false, ⟨j.place, d.depth, j.state⟩ :: found)) []
  s.setHead v { s.head v with landings := found.reverse }

/-- What a reading costs; one that has just met a fault costs that fault too. -/
def costOf (s : Readings) (v : Nat) : Nat :=
  let j := s.top v
  let fresh := j.state == Table.faultState && j.links[0]?.any (·.2.isNone)
  j.cost + if (s.head v).status.isWaiting || fresh then prices.fault else 0

def countSince (s : Readings) (v : Nat) : Nat × Readings :=
  let h := s.head v
  let count := (s.top v).count
  if count < h.countAtFault then (0, s.setHead v { h with countAtFault := count })
  else (count - h.countAtFault, s)

def standing (s : Readings) (v : Nat) : Standing × Readings :=
  let isWaiting := (s.head v).status.isWaiting
  let cost := s.costOf v + if isWaiting then prices.skippedNode else 0
  let (count, s) := s.countSince v
  (⟨cost, count, (s.top v).weight, isWaiting || s.state v == Table.faultState⟩, s)

/-- Whether a reading has come on since its last fault. -/
def hasAdvanced (s : Readings) (v : Nat) : Bool :=
  (s.top v).cost == 0 || goesOn s.joints.size (s.head v).joint
where
  goesOn : Nat → Nat → Bool
    | 0, _ => false
    | fuel + 1, joint =>
      let j := s.joints[joint]!
      match j.links[0]? with
      | some (below, some t) =>
        t.before < t.stop ||
          ((s.head v).countAtFault < j.count && t.cost == 0 && goesOn fuel below)
      | _ => false

/-- Whether some reading that has come as far is better than one of that cost. -/
def hasBetter (s : Readings) (v : Nat) (cost : Nat) : Bool × Readings := Id.run do
  if s.finished.any (·.cost ≤ cost) then return (true, s)
  let (count, s') := s.countSince v
  let mut s := s'
  let own : Standing := ⟨cost, count, (s.top v).weight, false⟩
  for i in [0 : s.heads.size] do
    if i != v && (s.head i).status.isActive && s.place v ≤ s.place i then
      let (other, s') := s.standing i
      s := s'
      match own.compare other with
      | .dropFirst => return (true, s)
      | .preferSecond => if s.canMerge i v then return (true, s)
      | _ => pure ()
  return (false, s)

end Readings
end SchemaWrappers.Syntax
