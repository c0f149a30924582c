import SchemaWrappers.Template.Check

namespace SchemaWrappers.Template.Eval

def escapesHere (env : Env) : Eval Bool :=
  if env.varies then escapes env.context else pure env.escape

/-- What a name stands for. -/
def named (env : Env) (n : String) : Eval Value := do
  match ← local? env.frame n with
  | none | some .missing => return .absent true s!"{Text.quote n} is undefined"
  | some v => return v

def arguments (env : Env) (g : Given Expr) : Eval Arguments := do
  let places ← g.places.mapM (expr env)
  let morePlaces ← g.morePlaces.mapM (expr env)
  let names ← g.names.mapM fun (n, e) => return (n, ← expr env e)
  spreadArguments places names morePlaces (← g.moreNames.mapM (expr env))

def joinedTexts (escape : Bool) (vs : List Value) : Eval Value := do
  if !escape then return .plain (String.join (← vs.mapM textOf))
  let texts ← vs.mapM softText
  if texts.any (·.2) then
    return .text (String.join (texts.map fun (s, safe) => if safe then s else escapedText s)) true
  else return .plain (String.join (texts.map (·.1)))

/-- Whether each value stands to the next one as it should. -/
def chain (env : Env) (v : Value) : List (Comparison × Expr) → Eval Bool
  | [] => pure true
  | (c, e) :: others => do
    let w ← expr env e
    if ← compare c v w then chain env w others else return false

def evaluate (env : Env) (e : Expr) : Eval Value := do
  let orNone (e : Option Expr) : Eval Value := match e with
    | some e => expr env e
    | none => pure .none
  match e with
  | .constant c =>
    match c.unwritable? with
    | some n => throw (.misuse .name s!"name '{n}' is not defined")
    | none => ofConstant c
  | .name n => named env n
  | .list es => do newList (← es.mapM (expr env))
  | .tuple es => return .tuple (← es.mapM (expr env))
  | .table pairs =>
    let es ← pairs.mapM fun (k, v) => return (← expr env k, ← expr env v)
    newTable (← es.foldlM (fun es (k, v) => withEntry es k v) [])
  | .field e n => getField (← expr env e) n
  | .item a b =>
    let v ← expr env a
    getEntry v (← expr env b)
  | .slice e a b c =>
    let v ← expr env e
    let start ← orNone a
    let stop ← orNone b
    getSlice v start stop (← orNone c)
  | .call f g =>
    let callee ← expr env f
    call env callee (← arguments env g)
  | .filter input n g =>
    let v ← match input with
      | some e => expr env e
      | none => pure env.body
    filter env.context n v (← arguments env g)
  | .test input n g =>
    let v ← expr env input
    test env.context n v (← arguments env g)
  | .plus e => plus (← expr env e)
  | .minus e => minus (← expr env e)
  | .not e => return .truth (!(← holds (← expr env e)))
  | .operate op a b =>
    let v ← expr env a
    operate op v (← expr env b)
  | .join es => joinedTexts (!env.varies && env.escape) (← es.mapM (expr env))
  | .both a b =>
    let v ← expr env a
    if ← holds v then expr env b else return v
  | .either a b =>
    let v ← expr env a
    if ← holds v then return v else expr env b
  | .compare first others => return .truth (← chain env (← expr env first) others)
  | .choose line c a b =>
    if ← holds (← expr env c) then expr env a
    else
      match b with
      | some b => expr env b
      | none =>
        return .absent false (s!"the inline if-expression on line {line} in " ++
          s!"{Text.quote env.template} evaluated to false and no else section was defined.")

end SchemaWrappers.Template.Eval
