import SchemaWrappers.Yaml.Tag
import SchemaWrappers.Yaml.Token

namespace SchemaWrappers.Yaml

/-- An alias stands for the node whose anchor has its name; it may stand inside that node. -/
inductive Node where
  | scalar (tag : Tag) (text : Text.Spelled)
  | sequence (tag : Tag) (items : List Node)
  | mapping (tag : Tag) (pairs : List (Node × Node))
  | alias (name : String)

namespace Node

def empty : Node := scalar .null (.text "")

end Node

namespace Composer

/-- `pending` are the anchors whose nodes are being read; aliases may name them and the anchors of
nodes that were read. `room` is how much deeper calls may still go. -/
structure State where
  rest : List Token
  handles : List (String × String)
  room : Nat
  pending : List String := []
  anchors : List (String × Node) := []

abbrev ComposerM := StateT State (Except Error)

def fail : ComposerM α := throw .malformed

def peek : ComposerM (Option Token) := do
  match (← get).rest.head? with
  | some (.fault e) => throw e
  | t => return t

def advance : ComposerM Unit := modify fun s => { s with rest := s.rest.tail }

def accept (t : Token) : ComposerM Bool := do
  if (← peek) == some t then
    advance
    return true
  else return false

def demand (t : Token) : ComposerM Unit := do if ← accept t then pure () else fail

def sees (ts : List Token) : ComposerM Bool :=
  return ((← peek).map ts.contains).getD false

/-- What stands before a node: its anchor and the name of its kind, in either order. -/
def properties : ComposerM (Option String × Option String) := do
  let anchor : ComposerM (Option String) := do
    match ← peek with
    | some (.anchor name) => advance; return some name
    | _ => return none
  let tag : ComposerM (Option String) := do
    match ← peek with
    | some (.tag none suffix) => advance; return some suffix
    | some (.tag (some handle) suffix) =>
      advance
      match (← get).handles.lookup handle with
      | some long => return some (long ++ suffix)
      | none => fail
    | _ => return none
  match ← anchor with
  | some a => return (some a, ← tag)
  | none =>
    let t ← tag
    return (← anchor, t)

def kindOf (usual : Tag) : Option String → Tag
  | none => usual
  | some name => if name == "!" then usual else Tag.ofName name

def scalarOf (name : Option String) (text : Text.Spelled) (plain : Bool) : Node :=
  let usual := match text with
    | .text s => if plain || name == some "!" then Tag.ofLooks s else .text
    | .halved _ => .text
  .scalar (kindOf usual name) text

def anchored (anchor : Option String) (node : ComposerM Node) : ComposerM Node := do
  match anchor with
  | none => node
  | some a =>
    let s ← get
    if s.pending.contains a || (s.anchors.lookup a).isSome then fail
    set { s with pending := a :: s.pending }
    let n ← node
    modify fun s => { s with anchors := (a, n) :: s.anchors }
    return n

/-- What a collection is made up of, which is read by calls of calls. -/
def deeper (m : ComposerM α) : ComposerM α := do
  let s ← get
  if s.room < 2 then throw .tooDeep
  set { s with room := s.room - 2 }
  let a ← m
  modify fun after => { after with room := s.room }
  return a

mutual
/-- A node; `block` tells whether it may be written in block form, `indentless` whether the entries
of a sequence may stand without an indentation of their own. -/
def node (block indentless : Bool) : Nat → ComposerM Node
  | 0 => fail
  | fuel + 1 => do
    match ← peek with
    | some (.alias name) =>
      advance
      let s ← get
      if s.pending.contains name || (s.anchors.lookup name).isSome then return .alias name
      else fail
    | _ =>
      let (anchor, name) ← properties
      anchored anchor do
        match ← peek with
        | some (.scalar text plain) => advance; return scalarOf name text plain
        | some .flowSequenceStart =>
          advance
          return .sequence (kindOf .sequence name) (← deeper (flowItems true fuel))
        | some .flowMappingStart =>
          advance
          return .mapping (kindOf .mapping name) (← deeper (flowPairs true fuel))
        | t =>
          if indentless && t == some .blockEntry then
            return .sequence (kindOf .sequence name) (← deeper (indentlessItems fuel))
          else if block && t == some .blockSequenceStart then
            advance
            return .sequence (kindOf .sequence name) (← deeper (blockItems fuel))
          else if block && t == some .blockMappingStart then
            advance
            return .mapping (kindOf .mapping name) (← deeper (blockPairs fuel))
          else if anchor.isSome || name.isSome then return scalarOf name (.text "") true
          else fail

def nodeUnless (stops : List Token) (block indentless : Bool) : Nat → ComposerM Node
  | 0 => fail
  | fuel + 1 => do
    if ← sees stops then return .empty else node block indentless fuel

def blockItems : Nat → ComposerM (List Node)
  | 0 => fail
  | fuel + 1 => do
    if ← accept .blockEntry then
      let item ← nodeUnless [.blockEntry, .blockEnd] true false fuel
      return item :: (← blockItems fuel)
    else
      demand .blockEnd
      return []

def indentlessItems : Nat → ComposerM (List Node)
  | 0 => fail
  | fuel + 1 => do
    if ← accept .blockEntry then
      let item ← nodeUnless [.blockEntry, .key, .value, .blockEnd] true false fuel
      return item :: (← indentlessItems fuel)
    else return []

def blockPairs : Nat → ComposerM (List (Node × Node))
  | 0 => fail
  | fuel + 1 => do
    if ← accept .key then
      let stops := [.key, .value, .blockEnd]
      let key ← nodeUnless stops true true fuel
      let value ← if ← accept .value then nodeUnless stops true true fuel else pure .empty
      return (key, value) :: (← blockPairs fuel)
    else
      demand .blockEnd
      return []

def flowValue (stop : Token) : Nat → ComposerM Node
  | 0 => fail
  | fuel + 1 => do
    if ← accept .value then nodeUnless [.flowEntry, stop] false false fuel else return .empty

def flowItems (first : Bool) : Nat → ComposerM (List Node)
  | 0 => fail
  | fuel + 1 => do
    if ← accept .flowSequenceEnd then return []
    else
      if !first then demand .flowEntry
      if ← accept .flowSequenceEnd then return []
      else
        let item ←
          if ← accept .key then
            let key ← nodeUnless [.value, .flowEntry, .flowSequenceEnd] false false fuel
            pure (Node.mapping .mapping [(key, ← flowValue .flowSequenceEnd fuel)])
          else node false false fuel
        return item :: (← flowItems false fuel)

def flowPairs (first : Bool) : Nat → ComposerM (List (Node × Node))
  | 0 => fail
  | fuel + 1 => do
    if ← accept .flowMappingEnd then return []
    else
      if !first then demand .flowEntry
      if ← accept .flowMappingEnd then return []
      else
        let pair ←
          if ← accept .key then
            let key ← nodeUnless [.value, .flowEntry, .flowMappingEnd] false false fuel
            pure (key, ← flowValue .flowMappingEnd fuel)
          else pure (← node false false fuel, .empty)
        return pair :: (← flowPairs false fuel)
end

/-- The directives before a document; the version may be given once and has to be 1. -/
def directives (versioned : Bool) (handles : List (String × String)) :
    List Token → Except Error (List (String × String) × List Token)
  | .version major :: ts =>
    if versioned || major != 1 then .error .malformed else directives true handles ts
  | .tagShort handle long :: ts =>
    if (handles.lookup handle).isSome then .error .malformed
    else directives versioned ((handle, long) :: handles) ts
  | .otherDirective :: ts => directives versioned handles ts
  | ts => .ok (handles, ts)

/-- Short names that need no directive. -/
def usualHandles : List (String × String) := [("!", "!"), ("!!", Tag.common)]

/-- The node of a document whose tokens come next, up to the end of the document. -/
def content (fuel : Nat) : ComposerM Node := do
  match ← peek with
  | none | some .documentStart | some .documentEnd => return .empty
  | some t => if t.isDirective then return .empty else node true false fuel

/-- What follows a document must be the end of the stream, which faults may keep from being seen. -/
def atEnd (ts : List Token) : Except Error Unit :=
  match ts.dropWhile (· == .documentEnd) with
  | [] => .ok ()
  | ts => do
    match ← directives false [] ts with
    | (_, .fault e :: _) => throw e
    | _ => throw .malformed

def document (room : Nat) (ts : List Token) : Except Error (Option (Node × List (String × Node))) := do
  let fuel := 4 * ts.length + 4
  let run (m : ComposerM Node) (handles : List (String × String)) (rest : List Token) := do
    let (n, s) ← m.run { rest, handles, room }
    atEnd s.rest
    return some (n, s.anchors)
  match ts with
  | [] => return none
  | t :: _ =>
    if t.isDirective || t == .documentStart then
      match ← directives false [] ts with
      | (handles, .documentStart :: rest) => run (content fuel) (handles ++ usualHandles) rest
      | (_, .fault e :: _) => throw e
      | _ => throw .malformed
    else run (node true false fuel) usualHandles ts

end Composer
end SchemaWrappers.Yaml
