import SchemaWrappers.Template.Tree

/-! Reading along the tokens of a template: what comes next, what has to come next, and what is said
if something else does. -/
namespace SchemaWrappers.Template.Reader

/-- The tokens to come, the first words of the tags that are open, and the words that each open body
may end with. -/
structure Cursor where
  rest : List Lexeme
  opened : List String := []
  sought : List (List String) := []

abbrev ReaderM := StateT Cursor (Except Fault)

def fail (message : String) : ReaderM α := throw (.template message)

def tooDeep : ReaderM α := throw (.misuse .depth "maximum recursion depth exceeded")

def peek : ReaderM (Option Token) := do
  match (← get).rest with
  | [] => return none
  | ⟨.bad f, _⟩ :: _ => throw f
  | l :: _ => return some l.token

def peekAfter : ReaderM (Option Token) := do
  match (← get).rest with
  | _ :: ⟨.bad f, _⟩ :: _ => throw f
  | _ :: l :: _ => return some l.token
  | _ => return none

def line : ReaderM Nat := return ((← get).rest.head?.map (·.line)).getD 1

def advance : ReaderM Unit := modify fun c => { c with rest := c.rest.tail }

def label : ReaderM String := return ((← peek).map Token.label).getD "end of template"

def isMark (m : String) : Option Token → Bool
  | some (.mark n) => m == n
  | _ => false

def isName (m : String) : Option Token → Bool
  | some (.name n) => m == n
  | _ => false

def acceptIf (fits : Option Token → Bool) : ReaderM Bool := do
  if fits (← peek) then
    advance
    return true
  else return false

def acceptMark (m : String) : ReaderM Bool := acceptIf (isMark m)
def acceptName (n : String) : ReaderM Bool := acceptIf (isName n)

/-- Reports that something else should have come next. -/
def expected (what : String) : ReaderM α := do
  let what := Text.quote what
  match ← peek with
  | none => fail s!"unexpected end of template, expected {what}."
  | some t => fail s!"expected token {what}, got {Text.quote t.label}"

def demandIf (fits : Option Token → Bool) (what : String) : ReaderM Unit := do
  if !(← acceptIf fits) then expected what

def demandMark (m : String) : ReaderM Unit := demandIf (isMark m) m
def demandName (n : String) : ReaderM Unit := demandIf (isName n) n

def demandTagEnd : ReaderM Unit :=
  demandIf (fun t => t matches some .tagEnd) Token.tagEnd.label

def demandOutputEnd : ReaderM Unit :=
  demandIf (fun t => t matches some .outputEnd) Token.outputEnd.label

def anyName : ReaderM String := do
  match ← peek with
  | some (.name n) => advance; return n
  | _ => expected "name"

def dotted : Nat → ReaderM String
  | 0 => tooDeep
  | fuel + 1 => do
    let n ← anyName
    if ← acceptMark "." then return n ++ "." ++ (← dotted fuel) else return n

/-- Words that stand for values. -/
def constants : List (String × Constant) :=
  [("true", .truth true), ("True", .truth true), ("false", .truth false), ("False", .truth false),
    ("none", .none), ("None", .none)]

/-- Items with commas between them up to a closing mark; a comma may stand behind the last. -/
def listed (closer : String) (item : ReaderM α) : Nat → Bool → ReaderM (List α)
  | 0, _ => tooDeep
  | fuel + 1, first => do
    if ← acceptMark closer then return []
    else
      if !first then demandMark ","
      if !first && (← acceptMark closer) then return []
      else
        let i ← item
        return i :: (← listed closer item fuel false)

def separated (ended : Option Token → Bool) (item : ReaderM α) : Nat → Bool → ReaderM (List α)
  | 0, _ => tooDeep
  | fuel + 1, first => do
    if ended (← peek) then return []
    else
      if !first then demandMark ","
      let i ← item
      return i :: (← separated ended item fuel false)

def alternatives (words : List String) : String := " or ".intercalate (words.map Text.quote)

/-- What is said of a tag that is not known here, or of the end of the template within a body. -/
def strayMessage (name : Option String) (sought : List (List String)) (opened : List String) :
    String :=
  let start := match name with
    | none => "Unexpected end of template."
    | some n => s!"Encountered unknown tag {Text.quote n}."
  let looking := match sought with
    | [] => []
    | words :: _ =>
      let now := alternatives words
      if name.any fun n => sought.any (·.contains n) then
        ["You probably made a nesting mistake. Jinja is expecting this tag, but currently looking " ++
          s!"for {now}."]
      else [s!"Jinja was looking for the following tags: {now}."]
  let innermost := match opened with
    | [] => []
    | tag :: _ => [s!"The innermost block that needs to be closed is {Text.quote tag}."]
  " ".intercalate (start :: looking ++ innermost)

def failStray (name : Option String) : ReaderM α := do
  let c ← get
  fail (strayMessage name c.sought c.opened)

end SchemaWrappers.Template.Reader
