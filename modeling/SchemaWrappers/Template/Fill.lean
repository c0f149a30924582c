import SchemaWrappers.Template.Calls

namespace SchemaWrappers.Template.Eval

/-- Sets names at the top of a template for all that sees its context. -/
def shareNames (env : Env) (names : List String) (exported : Bool) : Eval Unit := do
  if env.top then
    let values ← names.mapM fun n => return (n, (← local? env.frame n).getD .missing)
    setInContext env.context values exported

/-- Refuses a target that is an entry of what is no name space. -/
def checkOwners (env : Env) (t : Target) : Eval Unit :=
  t.owners.forM fun n => do
    match ← local? env.frame n with
    | some (.space _) => pure ()
    | _ => throw (.template "cannot assign attribute on non-namespace object")

/-- The first body of a choice whose condition holds. -/
def chosen (env : Env) (otherwise : List Part) : List (Expr × List Part) → Eval (List Part)
  | [] => pure otherwise
  | (c, ps) :: bs => do if ← holds (← expr env c) then return ps else chosen env otherwise bs

/-- Fills in a template once: what it puts out before the one that it extends, which is given. -/
def runOnce (t : Prepared) (context : Nat) : Eval (Option Prepared) := do
  let run := (← get).extended.size
  modify fun s => { s with extended := s.extended.push none }
  let scope := Scope.ofRoot ["self"] t.parts
  let env ← enter { frame := 0, context, template := t.name } scope none
  if scope.stores.contains "self" then setName env.frame "self" (.self context)
  parts { env with top := true, guarded := t.mayExtend, run } t.parts
  extended run

/-- Fills in a template and those that it extends in turn. -/
def runRoot (context : Nat) : Nat → Prepared → Eval Unit
  | 0, _ => throw (.misuse .depth "maximum recursion depth exceeded")
  | fuel + 1, t => do
    match ← runOnce t context with
    | some t => runRoot context fuel t
    | none => pure ()

/-- So long a row of templates that extend one another may be. -/
def longestRow : Nat := 300

/-- What a template puts out and exports. -/
def moduleIn (t : Prepared) (context_ : Nat) : Eval Nat := do
  let out ← captured (runRoot context_ longestRow t)
  let c ← context context_
  let names := c.exported.filterMap fun n => (c.set.lookup n).map fun v => (n, v)
  addCell (.library t.name names out)

/-- What a template puts out and exports by itself; it is filled in but once. -/
def moduleOf (t : Prepared) : Eval Nat := do
  match (← get).libraries.lookup t.name with
  | some n => return n
  | none =>
    let n ← moduleIn t (← newContext t everywhere)
    modify fun s => { s with libraries := (t.name, n) :: s.libraries }
    return n

def moduleFor (env : Env) (source : Source) : Eval Nat := do
  let t ← templateOf (← expr env source.template)
  if source.shared then moduleIn t (← newContext t (← visible env)) else moduleOf t

def putIn (env : Env) (source : Source) (optional : Bool) : Eval Unit := do
  let found ← try do
      let v ← expr env source.template
      match source.template with
      | .list _ | .tuple _ => pure (some (← firstOf v))
      | _ => pure (some (← templateFor v))
    catch
      | .notFound m => if optional then pure none else throw (.notFound m)
      | e => throw e
  match found with
  | none => pure ()
  | some t =>
    if source.shared then runRoot (← newContext t (← visible env)) longestRow t
    else
      match ← cell (← moduleOf t) with
      | .library _ _ out => putPast env.collecting out
      | _ => pure ()

def takeNames (env : Env) (source : Source) (names : List (String × String)) : Eval Unit := do
  let n ← moduleFor env source
  names.forM fun (name, ownName) => do
    match ← fieldOf (.library n) name with
    | some v => setName env.frame ownName v
    | none =>
      let template ← match ← cell n with
        | .library t .. => pure t
        | _ => pure ""
      setName env.frame ownName (.absent true (s!"the template {Text.quote template} (imported on " ++
        s!"line {source.line} in {Text.quote env.template}) does not export the requested name " ++
        s!"{Text.quote name}"))
  shareNames env (names.map (·.2)) false

/-- Whether what stands at a place is dropped because the template extends another one. -/
def isDropped (env : Env) : Eval Bool := do
  if env.guarded then return (← extended env.run).isSome else return false

def extend (env : Env) (e : Expr) : Eval Unit := do
  if (← extended env.run).isSome then throw (.template "extended multiple times")
  let t ← templateOf (← expr env e)
  setExtended env.run t
  changeContext env.context fun c =>
    { c with blocks := t.blocks.foldl (fun bs (n, body) =>
        Assoc.set bs n (((bs.lookup n).getD []) ++ [⟨t.name, body⟩])) c.blocks }

def escaping (env : Env) (on : Expr) (body : List Part) : Eval Unit := do
  let env ← enterWithin env (Scope.ofEscape (← declares env) on body)
  let before ← escapes env.context
  setEscape env.context (← holds (← expr env on))
  match on with
  | .constant (.truth b) => parts { env with escape := b } body
  | _ => parts { env with varies := true } body
  setEscape env.context before
  leave env

def capture (env : Env) (t : Target) (filter : Option Expr) (body : List Part) : Eval Unit := do
  let inner ← enterWithin env (Scope.ofBody (← declares env) body)
  let inner := { inner with guarded := false }
  let text ← collected inner (parts · body)
  let v ← match filter with
    | some e => do expr { inner with body := ← textHere env text } e
    | none => pure (.plain text)
  let v ← if ← escapes env.context then pure (Value.text (← textOf v) true) else pure v
  assign env.frame v t
  shareNames env t.names true
  leave inner

def putBlock (env : Env) (name : String) (sees required : Bool) : Eval Unit := do
  if env.top && (← extended env.run).isSome then return
  let context_ ← if sees then derivedContext env else pure env.context
  let bodies := ((← context env.context).blocks.lookup name).getD []
  if required && bodies.length ≤ 1 then
    throw (.template s!"Required block {Text.quote name} not found")
  runBlock name context_ 0

def putFiltered (env : Env) (e : Expr) (body : List Part) : Eval Unit := do
  let inner ← enterWithin env (Scope.ofFilter (← declares env) e body)
  let text ← collected inner (parts · body)
  put (← expr { inner with body := ← textHere env text } e)
  leave inner

def putCall (env : Env) (m : Macro) (call_ : Expr) : Eval Unit := do
  let caller ← newRoutine env m
  match call_ with
  | .call f g =>
    let callee ← expr env f
    let args ← arguments env g
    put (← call env callee { args with names := args.names ++ [("caller", caller)] })
  | e => do put (← expr env e)

def fillPart (env : Env) (p : Part) : Eval Unit := do
  match p with
  | .output items =>
    if !(← isDropped env) then
      items.forM fun
        | .data s => put (.plain s)
        | .value e => do put (.plain (← output (← escapesHere env) (← expr env e)))
  | .choose branches otherwise => do parts env (← chosen env otherwise branches)
  | .loop target source only recursive body otherwise =>
    let counted := countsItself body otherwise recursive
    let l : Nested := { target, only, body, otherwise, counted, recursive, env }
    let v ← expr env source
    if recursive then put (← runRecursive l v 0) else runLoop l v 0
  | .assign t e =>
    checkOwners env t
    assign env.frame (← expr env e) t
    shareNames env t.names true
  | .capture t filter body => capture env t filter body
  | .define n ps body =>
    setName env.frame n (← newRoutine env ⟨some n, ps, body⟩)
    shareNames env [n] true
  | .callWith ps call body => putCall env ⟨none, ps, body⟩ call
  | .bind names body =>
    let inner ← enterWithin env (Scope.ofBinding (← declares env) names body)
    names.forM fun (t, e) => do assign inner.frame (← expr env e) t
    parts inner body
    leave inner
  | .filter e body => putFiltered env e body
  | .escape on body => escaping env on body
  | .block name sees required _ => putBlock env name sees required
  | .inclusion source optional => putIn env source optional
  | .importAs source n =>
    setName env.frame n (.library (← moduleFor env source))
    shareNames env [n] false
  | .importNames source names => takeNames env source names
  | .extend e => extend env e

def fillParts (env : Env) (ps : List Part) : Eval Unit := ps.forM (fillPart env)

end SchemaWrappers.Template.Eval
