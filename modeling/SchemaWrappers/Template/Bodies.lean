import SchemaWrappers.Template.Lookup

namespace SchemaWrappers.Template.Eval

def declaredFrom : Nat → Nat → Eval (List String)
  | 0, _ => pure []
  | fuel + 1, n => do
    let f ← frame n
    match f.outer with
    | some outer => return f.names.map (·.1) ++ (← declaredFrom fuel outer)
    | none => return f.names.map (·.1)

/-- Whether a body, or one around it, declares a name. -/
def declares (env : Env) : Eval (String → Bool) := do
  let names ← declaredFrom ((← get).frames.size + 1) env.frame
  return names.contains

/-- What a name stands for beyond the bodies of a template. -/
def fromContext (n : Nat) (name : String) : Eval Value := do
  let c ← context n
  return (c.set.lookup name).or (c.fixed.lookup name) |>.getD .missing

/-- Gives the names of a body what they start with, but for those that are given values. -/
def start (context frame_ : Nat) (s : Scope) : Eval Unit := do
  let f ← frame frame_
  let names ← s.starts.mapM fun (n, start) => do
    match start with
    | .given => return (n, (f.names.lookup n).getD .missing)
    | .context => return (n, ← fromContext context n)
    | .unset => return (n, .missing)
    | .around =>
      match f.outer with
      | some outer => return (n, (← local? outer n).getD .missing)
      | none => return (n, .missing)
  setFrame frame_ { f with names }

/-- Enters a body within another one, or one that stands by itself. -/
def enter (env : Env) (s : Scope) (outer : Option Nat) : Eval Env := do
  let n ← addFrame ⟨s.starts.map fun p => (p.1, .missing), s.stores, outer⟩
  start env.context n s
  return { env with frame := n, top := false }

def enterWithin (env : Env) (s : Scope) : Eval Env := enter env s (some env.frame)

def leave (env : Env) : Eval Unit := do
  let f ← frame env.frame
  setFrame env.frame { f with names := f.names.map fun p => (p.1, .missing) }

/-- What is put out by a run as one text; the run stands in a body that collects it. -/
def collected (env : Env) (run : Env → Eval Unit) : Eval String := do
  joined (← captured (run { env with collecting := env.collecting + 1 }))

def textHere (env : Env) (s : String) : Eval Value := return .text s (← escapesHere env)

/-- The names that are set in bodies from one outwards, with what they stand for in the first one. -/
def storesFrom (start : Nat) : Nat → Nat → Eval (List (String × Value))
  | 0, _ => pure []
  | fuel + 1, n => do
    let f ← frame n
    let found ← f.stores.filterMapM fun name => do
      match ← local? start name with
      | some .missing | none => return none
      | some v => return some (name, v)
    match f.outer with
    | some outer => return found ++ (← storesFrom start fuel outer)
    | none => return found

/-- All names that can be seen from a place, with those that bodies around set. -/
def visible (env : Env) : Eval (List (String × Value)) := do
  let c ← context env.context
  let all := c.set.foldl (fun all p => Assoc.set all p.1 p.2) c.fixed
  let stores ← storesFrom env.frame ((← get).frames.size + 1) env.frame
  return stores.foldl (fun all p => Assoc.set all p.1 p.2) all

/-- The functions that every template knows. -/
def everywhere : List (String × Value) :=
  [("range", .function .range), ("dict", .function .table), ("lipsum", .function .filler),
    ("cycler", .function .cycler), ("joiner", .function .joiner), ("namespace", .function .space)]

def newContext (t : Prepared) (fixed : List (String × Value)) : Eval Nat := do
  addContext
    { template := t.name, fixed, escape := ← addEscape false
      blocks := t.blocks.map fun (n, body) => (n, [⟨t.name, body⟩]) }

/-- A context in which what can be seen from a place is fixed; all else is that of the one there. -/
def derivedContext (env : Env) : Eval Nat := do
  let c ← context env.context
  addContext { template := c.template, fixed := ← visible env, blocks := c.blocks, escape := c.escape }

/-- Sets names of a context; they are taken along by those who import its template. -/
def setInContext (context : Nat) (names : List (String × Value)) (exported : Bool) : Eval Unit :=
  changeContext context fun c =>
    let shown := (names.map (·.1)).filter fun n => !n.startsWith "_"
    { c with
      set := names.foldl (fun s p => Assoc.set s p.1 p.2) c.set
      exported :=
        if exported then c.exported ++ shown.filter fun n => !c.exported.contains n
        else c.exported.filter fun n => !shown.contains n }

end SchemaWrappers.Template.Eval
