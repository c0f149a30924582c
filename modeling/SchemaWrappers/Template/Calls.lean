import SchemaWrappers.Template.Bodies

namespace SchemaWrappers.Template.Eval

def runLoop (l : Nested) (source : Value) (depth : Nat) : Eval Unit := do
  let outer ← declares l.env
  let scope := Scope.ofLoop outer l.target l.counted l.body
  let source ← match l.only with
    | none => pure source
    | some condition => do
      let env ← enterWithin l.env (Scope.ofCondition outer l.target condition)
      newWalk "generator" (.only (← walkOf source) l.target condition env)
  let walk ← walkOf source
  let env ← enterWithin l.env scope
  let walk ←
    if l.counted then
      let nested := if l.recursive then some l else none
      let loop ← addCell (.loop { source, walk, nested, depth })
      addCell (.walk (.rounds loop))
    else pure walk
  let ran ← untilDone (fun (ran : Bool) => do
    match ← next walk with
    | none => return (ran, true)
    | some v =>
      match l.counted, v with
      | true, .tuple [v, loop] =>
        assign env.frame v l.target
        setName env.frame "loop" loop
      | _, v => assign env.frame v l.target
      start env.context env.frame scope
      parts env l.body
      return (true, false)) false
  leave env
  if !ran && !l.otherwise.isEmpty then
    let env ← enterWithin l.env (Scope.ofBody outer l.otherwise)
    parts env l.otherwise
    leave env

/-- Runs through a loop that can be entered again; gives what it puts out. -/
def runRecursive (l : Nested) (source : Value) (depth : Nat) : Eval Value := do
  textHere l.env (← joined (← captured (runLoop l source depth)))

def newRoutine (env : Env) (m : Macro) : Eval Value := do
  let asks := m.asks
  let env := { env with top := false, guarded := false, collecting := 0 }
  return .routine (← addCell (.routine
    ⟨m, env, asksFor "caller" m.body, asks.contains "kwargs", asks.contains "varargs"⟩))

def routineNames (r : Routine) (args : Arguments) : Eval (List (String × Value)) := do
  let ps := r.body.parameters.map (·.name)
  let name := (r.body.name.map Text.quote).getD "None"
  let placed := ps.zip args.places
  let named := (ps.drop placed.length).map fun n => (n, (args.names.lookup n).getD .missing)
  let rest := args.names.filter fun p => !(named.lookup p.1).isSome
  let hasCaller := ps.contains "caller" && (placed.length == ps.length || (named.lookup "caller").isSome)
  let (caller, rest) ←
    if r.caller && !hasCaller then
      let caller := match rest.lookup "caller" with
        | none | some .none => Value.absent true "No caller defined"
        | some v => v
      pure ([("caller", caller)], rest.filter (·.1 != "caller"))
    else pure ([], rest)
  let names ←
    if r.names then do
      pure [("kwargs", ← newTable (rest.map fun p => (.plain p.1, p.2)))]
    else
      match rest with
      | [] => pure []
      | (n, _) :: _ =>
        if (rest.lookup "caller").isSome then
          kind (s!"macro {name} was invoked with two values for the special caller argument. " ++
            "This is most likely a bug.")
        else kind s!"macro {name} takes no keyword argument {Text.quote n}"
  let more := args.places.drop ps.length
  if r.places then return placed ++ named ++ caller ++ names ++ [("varargs", .tuple more)]
  else if more.isEmpty then return placed ++ named ++ caller ++ names
  else kind s!"macro {name} takes not more than {ps.length} argument(s)"

/-- Gives a parameter that has no value its fallback. -/
def fallBack (env : Env) (p : Formal) : Eval Unit := do
  match ← local? env.frame p.name, p.fallback with
  | some .missing, some e => do setName env.frame p.name (← expr env e)
  | some .missing, none =>
    setName env.frame p.name (.absent true s!"parameter {Text.quote p.name} was not provided")
  | _, _ => pure ()

/-- Calls a macro; its text is mark-up if texts are escaped where it is called. -/
def callRoutine (context : Nat) (r : Routine) (args : Arguments) : Eval Value := do
  let names ← routineNames r args
  let scope := Scope.ofMacro (← declares r.env) r.body
  let env ← enterWithin r.env scope
  names.forM fun (n, v) => setName env.frame n v
  r.body.parameters.forM (fallBack env)
  let text ← joined (← captured (parts env r.body.body))
  return .text text (← escapes context)

/-- Puts out a block, as the template defines it that stands `depth` places behind the first one. -/
def runBlock (name : String) (context_ depth : Nat) : Eval Unit := do
  let bodies := ((← context context_).blocks.lookup name).getD []
  match bodies[depth]? with
  | none => pure ()
  | some b =>
    let scope := Scope.ofRoot ["self", "super"] b.body
    let env ← enter { frame := 0, context := context_, template := b.template } scope none
    if scope.stores.contains "self" then setName env.frame "self" (.self context_)
    if scope.stores.contains "super" then
      let above := if depth + 1 < bodies.length then Value.block name context_ (depth + 1)
        else .absent true s!"there is no parent block called {Text.quote name}."
      setName env.frame "super" above
    parts env b.body

def callValue (env : Env) (f : Value) (args : Arguments) : Eval Value := do
  let unfit : Eval Value := kind s!"'{f.sortName}' object is not callable"
  match f with
  | .absent _ message => absent message
  | .routine n =>
    match ← cell n with
    | .routine r => callRoutine env.context r args
    | _ => unfit
  | .loop n =>
    match ← bindTo "LoopContext.__call__" ["self"] [⟨"iterable", none⟩] args with
    | [source] =>
      let r ← round n
      match r.nested with
      | some l => runRecursive l source (r.depth + 1)
      | none => kind "The loop must have the 'recursive' marker to be called recursively."
    | _ => unfit
  | .block name context depth =>
    let _ ← bindTo "BlockReference.__call__" ["self"] [] args
    let text ← joined (← captured (runBlock name context depth))
    return .text text (← escapes context)
  | .joiner n =>
    let _ ← bindTo "Joiner.__call__" ["self"] [] args
    match ← cell n with
    | .joiner separator used =>
      setCell n (.joiner separator true)
      return if used then separator else .plain ""
    | _ => unfit
  | .member owner name => callMember owner name args
  | .function f => callBuiltin f args
  | _ => unfit

end SchemaWrappers.Template.Eval
