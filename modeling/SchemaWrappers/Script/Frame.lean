import SchemaWrappers.Script.Token

/-! What encloses the token being laid out: blocks, brackets and statements, innermost first. -/
namespace SchemaWrappers.Script

inductive Mode where
  | block
  | statement
  | object
  | array
  | loopHead
  | condition
  | expression
  deriving DecidableEq, Repr

namespace Mode

def isExpression (m : Mode) : Bool := m == .expression || m == .loopHead || m == .condition
def isArray (m : Mode) : Bool := m == .array

end Mode

/-- One enclosing construct. `last` is the token laid out last while it was innermost, and
`beforeLast` the token before that. -/
structure Frame where
  mode : Mode
  last : Mark := ⟨.startBlock, ""⟩
  beforeLast : Mark := ⟨.start, ""⟩
  lastWord : String := ""
  declares : Bool := false
  assigns : Bool := false
  multiline : Bool := false
  inline : Bool := false
  ifBlock : Bool := false
  elseBlock : Bool := false
  classStart : Bool := false
  doBlock : Bool := false
  doWhile : Bool := false
  importBlock : Bool := false
  inCase : Bool := false
  inCaseStatement : Bool := false
  caseBody : Bool := false
  caseBlock : Bool := false
  level : Nat := 0
  alignment : Nat := 0
  lineLevel : Nat := 0
  startLine : Nat := 0
  ternaries : Nat := 0

namespace Frame

/-- The frame of a construct inside `outer`. Behind other text on its line it is indented as that
line is. -/
def inside (outer : Frame) (mode : Mode) (atLineStart : Bool) (startLine : Nat) : Frame where
  mode
  last := outer.last
  beforeLast := outer.beforeLast
  lastWord := outer.lastWord
  level := if atLineStart then outer.level else max outer.level outer.lineLevel
  startLine

/-- Whether the lines of a finished construct lose a level. -/
def isRedundant (f : Frame) : Bool :=
  !f.multiline && f.mode != .loopHead && f.mode != .condition

end Frame

namespace Mark

def isReserved (m : Mark) (words : List String) : Bool := m.cls == .reserved && words.contains m.text

end Mark

def valueWords : List String :=
  ["case", "return", "do", "if", "throw", "else", "await", "break", "continue", "async"]

def restrictedWords : List String := ["async", "break", "continue", "return", "throw", "yield"]

end SchemaWrappers.Script
