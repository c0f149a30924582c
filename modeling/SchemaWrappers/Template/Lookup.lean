import SchemaWrappers.Template.Evaluate
import SchemaWrappers.Template.Tag

namespace SchemaWrappers.Template.Eval

def readied (name text : String) : Eval Prepared := do
  let cs := text.toList
  match Part.readAll (← read).levels cs with
  | .ok ps => Check.template (cs.length + 64) name ps
  | .error f => throw f

def load (name : String) : Eval Prepared := do
  match (← get).templates.lookup name with
  | some t => return t
  | none =>
    if (Text.pieces (· == '/') name.toList).contains ['.', '.'] then throw (.notFound name)
    match ← ask name with
    | .error e => throw (.encoding e)
    | .ok none =>
      let folder := Text.quote (← read).folder
      throw (.notFound s!"{Text.quote name} not found in search path: {folder}")
    | .ok (some text) =>
      let t ← readied name text
      modify fun s => { s with templates := (name, t) :: s.templates }
      return t

def templateOf (v : Value) : Eval Prepared := do
  match v with
  | .text name _ => load name
  | .absent _ message => absent message
  | v =>
    hashable 100 v
    throw (.misuse .field s!"'{v.sortName}' object has no attribute 'split'")

def firstOf (v : Value) : Eval Prepared := do
  if let .absent _ message := v then absent message
  if !(← holds v) then throw (.notFound "Tried to select from an empty list of templates.")
  let names ← itemsOf v
  let found ← names.findSomeM? fun name => do
    try return some (← templateOf name)
    catch
      | .notFound _ | .absent _ => return none
      | e => throw e
  match found with
  | some t => return t
  | none =>
    let shown ← names.mapM fun
      | .absent _ message => pure message
      | name => textOf name
    throw (.notFound ("none of the templates given were found: " ++ ", ".intercalate shown))

/-- The template that an inclusion asks for: one, or the first one of several. -/
def templateFor (v : Value) : Eval Prepared := do
  match v with
  | .text .. | .absent .. => templateOf v
  | v => firstOf v

end SchemaWrappers.Template.Eval
