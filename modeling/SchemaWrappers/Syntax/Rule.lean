/-! Rules of a grammar, as data: what a text may consist of, and how a reading is chosen where more
than one is possible. -/
namespace SchemaWrappers.Syntax

/-- The tokens that are not one fixed text. The last five are told by what stands around them. -/
inductive Form where
  | interpreterLine
  | name
  | privateName
  | number
  | comment
  | escape
  | doubleQuotedText
  | singleQuotedText
  | patternText
  | patternEnd
  | patternFlags
  | lineEnd
  | templateText
  | questionMark
  | pageComment
  | signatureEnd
  deriving BEq, Hashable, Repr, Inhabited

/-- How firmly a rule binds: by a number, or by a name that orderings of names compare. -/
inductive Rank where
  | level (n : Int)
  | named (s : String)
  deriving BEq, Hashable, Repr, Inhabited

instance : Coe String Rank := ⟨.named⟩
instance (n : Nat) : OfNat Rank n := ⟨.level n⟩

/-- The side to which a chain of equal rank groups. -/
inductive Side where
  | left
  | right
  deriving BEq, Hashable, Repr, Inhabited

/-- A kind that a part of a rule is shown as; a word or mark of the language itself is unnamed. -/
structure Label where
  kind : String
  named : Bool
  deriving BEq, Hashable, Repr, Inhabited

inductive Rule where
  | blank
  | text (s : String)
  | form (f : Form)
  | ref (name : String)
  | both (first second : Rule)
  | either (first second : Rule)
  | repeated (r : Rule)
  | rank (k : Rank) (r : Rule)
  | side (s : Side) (r : Rule)
  | label (l : Label) (r : Rule)
  | place (name : String) (r : Rule)
  | weight (n : Int) (r : Rule)
  deriving BEq, Repr, Inhabited

namespace Rule

instance : Coe String Rule := ⟨.text⟩

def seq : List Rule → Rule
  | [] => .blank
  | [r] => r
  | r :: rs => .both r (seq rs)

def oneOf : List Rule → Rule
  | [] => .blank
  | [r] => r
  | r :: rs => .either r (oneOf rs)

def maybe (r : Rule) : Rule := .either r .blank

def many (r : Rule) : Rule := maybe (.repeated r)

def separated (separator r : Rule) : Rule := seq [r, many (seq [separator, r])]

def listed (r : Rule) : Rule := separated "," r

def leftward (k : Rank) (r : Rule) : Rule := .rank k (.side .left r)

def rightward (k : Rank) (r : Rule) : Rule := .rank k (.side .right r)

def called (kind : String) (r : Rule) : Rule := .label ⟨kind, true⟩ r

/-- Shown as an unnamed node. -/
def spelled (text : String) (r : Rule) : Rule := .label ⟨text, false⟩ r

/-- The rule with other rules in the place of some references. -/
def substitute (f : String → Option Rule) : Rule → Rule
  | .ref n => (f n).getD (.ref n)
  | .both a b => .both (a.substitute f) (b.substitute f)
  | .either a b => .either (a.substitute f) (b.substitute f)
  | .repeated r => .repeated (r.substitute f)
  | .rank k r => .rank k (r.substitute f)
  | .side s r => .side s (r.substitute f)
  | .label l r => .label l (r.substitute f)
  | .place n r => .place n (r.substitute f)
  | .weight n r => .weight n (r.substitute f)
  | r => r

end Rule

/-- A token: a fixed text or a form. -/
inductive Token where
  | text (s : String)
  | form (f : Form)
  deriving BEq, Hashable, Repr, Inhabited

/-- A grammar. Its first rule is where a reading starts. `inlined` rules are read as if their
parts stood in the place of their names, `wide` ones are kinds of kinds and never nodes, and
`anywhere` may stand between any two tokens. `unsought` are the tokens that are not looked for where
a fault is being passed. Each ordering ranks names and rules, the firmest first. -/
structure Grammar where
  rules : List (String × Rule)
  inlined : List String
  wide : List String
  anywhere : List Form
  unsought : List Token
  orderings : List (List (Rank ⊕ String))

end SchemaWrappers.Syntax
