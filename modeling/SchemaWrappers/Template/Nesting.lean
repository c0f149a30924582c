import SchemaWrappers.Template.Token

namespace SchemaWrappers.Template

/-- The tags that are open, and in the tag or output that is read the open brackets and the operators
since the last comma; `starts` tells that the word of a tag comes next. -/
structure Nesting where
  tags : Nat := 0
  brackets : Nat := 0
  operators : Nat := 0
  starts : Bool := false

namespace Nesting

def enclosing : List String := ["for", "if", "block", "macro", "with", "autoescape", "call", "filter"]

/-- The words that make one operand of others. -/
def joining : List String := ["and", "or", "not", "is", "if"]

/-- The marks that do. Others stand between any number of operands on one level. -/
def nesting : List String := ["+", "-", "*", "/", "//", "%", "**", ".", "|"]

/-- How many levels it takes to go through what is nested. -/
def weight (n : Nesting) : Nat := 10 * n.tags + 13 * n.brackets + 5 * n.operators

def behindName (n : Nesting) (w : String) : Nesting :=
  if n.starts then
    let n := { n with starts := false }
    if enclosing.contains w then { n with tags := n.tags + 1 }
    else if w.startsWith "end" then { n with tags := n.tags - 1 }
    else n
  else if joining.contains w then { n with operators := n.operators + 1 }
  else n

def behindMark (n : Nesting) (m : String) : Nesting :=
  if (Lexer.brackets.lookup m).isSome then { n with brackets := n.brackets + 1 }
  else if Lexer.brackets.any (·.2 == m) then { n with brackets := n.brackets - 1 }
  else if m == "," then { n with operators := 0 }
  else if nesting.contains m then { n with operators := n.operators + 1 }
  else n

def behind (n : Nesting) : Token → Nesting
  | .tagStart => { tags := n.tags, starts := true }
  | .outputStart => { tags := n.tags }
  | .name w => n.behindName w
  | .mark m => n.behindMark m
  | _ => { n with starts := false }

/-- Tokens up to the first one behind which they nest too deep for the levels that there are. -/
def cut (levels : Nat) : Nesting → List Lexeme → List Lexeme
  | _, [] => []
  | n, l :: ls =>
    let n := n.behind l.token
    if levels < n.weight then [⟨.bad (.misuse .depth "maximum recursion depth exceeded"), l.line⟩]
    else l :: cut levels n ls

end Nesting

def leastLevels : Nat := 64

end SchemaWrappers.Template
