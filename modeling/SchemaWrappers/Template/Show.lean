import SchemaWrappers.Template.Size

namespace SchemaWrappers.Template

/-- A text in which the signs of mark-up are written as entities. -/
def escapedText (s : String) : String :=
  String.ofList (s.toList.flatMap fun
    | '&' => "&amp;".toList
    | '<' => "&lt;".toList
    | '>' => "&gt;".toList
    | '"' => "&#34;".toList
    | '\'' => "&#39;".toList
    | c => [c])

def bracketed (front back : String) (items : List String) (alone : String) : String :=
  match items with
  | [item] => front ++ item ++ alone ++ back
  | items => front ++ ", ".intercalate items ++ back

namespace Eval

def wholeText (n : Int) : Eval String :=
  match Text.wholeText? n with
  | some s => pure s
  | none => throw (.tooLong none)

/-- The text of a value within another one. Values that hold themselves are shown with dots; some are
shown by where they are in memory. -/
def shownIn (open_ : List Nat) : Nat → Value → Eval String
  | 0, _ => throw (.misuse .depth "maximum recursion depth exceeded while getting the repr of an object")
  | depth + 1, v => do
    let inside (n : Nat) := shownIn (n :: open_) depth
    let pairs (n : Nat) (es : List (Value × Value)) : Eval (List String) :=
      es.mapM fun (k, v) => return (← inside n k) ++ ": " ++ (← inside n v)
    match v with
    | .none => return "None"
    | .truth b => return if b then "True" else "False"
    | .whole n => wholeText n
    | .decimal x => return Decimal.text x
    | .text s safe => return if safe then s!"Markup({Text.quote s})" else Text.quote s
    | .tuple items => return bracketed "(" ")" (← items.mapM (shownIn open_ depth)) ","
    | .group key members =>
      return bracketed "(" ")" [← shownIn open_ depth key, ← shownIn open_ depth members] ","
    | .span start stop step =>
      let ends := s!"range({start}, {stop}"
      return if step == 1 then ends ++ ")" else s!"{ends}, {step})"
    | .list n =>
      if open_.contains n then return "[...]"
      else return bracketed "[" "]" (← (← items n).toList.mapM (inside n)) ""
    | .table n =>
      if open_.contains n then return "\x7b...\x7d"
      else return bracketed "\x7b" "\x7d" (← pairs n (← entries n)) ""
    | .view side n =>
      if open_.contains n then return "..."
      else
        let es ← entries n
        let shown ← match side with
          | .keys => es.mapM fun e => inside n e.1
          | .values => es.mapM fun e => inside n e.2
          | .items => es.mapM fun e => do
            return bracketed "(" ")" [← inside n e.1, ← inside n e.2] ","
        return bracketed (v.sortName ++ "([") "])" shown ""
    | .stub s =>
      return s!"TemplateData(name={Text.quote s.name}, comment={Text.quote s.comment}, " ++
        s!"params={Text.quote s.params})"
    | .absent .. => return "Undefined"
    | .loop n =>
      let length := (← length? v).getD 0
      let index := (← round n).index + 1
      return s!"<LoopContext {index}/{length}>"
    | .space n =>
      if open_.contains n then return "<Namespace \x7b...\x7d>"
      else
        let names := bracketed "\x7b" "\x7d" (← pairs n (← entries n)) ""
        return s!"<Namespace {names}>"
    | .routine n =>
      match ← cell n with
      | .routine r =>
        let name := (r.body.name.map Text.quote).getD "anonymous"
        return s!"<Macro {name}>"
      | _ => return "<Macro anonymous>"
    | .library n =>
      match ← cell n with
      | .library template .. => return s!"<TemplateModule {Text.quote template}>"
      | _ => return "<TemplateModule>"
    | .self n =>
      let name := Text.quote (← context n).template
      return s!"<TemplateReference {name}>"
    | .missing => return "missing"
    | .sort name => return s!"<class '{Value.originName name}'>"
    | .function .filler | .member .. | .walk .. | .cycler _ | .joiner _ | .block .. => unfollowed
    | .function f => return s!"<class '{Value.originName (Value.Builtin.sortName f)}'>"

def shown (v : Value) : Eval String := shownIn [] 900 v

/-- What was put out as one text. -/
def joined (out : Array Value) : Eval String := do
  let texts ← out.toList.zipIdx.mapM fun (v, i) => match v with
    | .text s _ => pure s
    | v => kind s!"sequence item {i}: expected str instance, {v.sortName} found"
  return String.join texts

def textOf (v : Value) : Eval String := do
  match v with
  | .text s _ => return s
  | .absent true message => absent message
  | .absent false _ => return ""
  | .library n =>
    match ← cell n with
    | .library _ _ out => joined out
    | _ => return ""
  | v => shown v

def softText (v : Value) : Eval (String × Bool) := do
  match v with
  | .text s safe => return (s, safe)
  | v => return (← textOf v, false)

/-- Whether a value says by itself how it is put out as mark-up. -/
def isSafe : Value → Bool
  | .text _ safe => safe
  | .library _ => true
  | _ => false

def escaped (v : Value) : Eval String := do
  if isSafe v then textOf v else return escapedText (← textOf v)

def output (escape : Bool) (v : Value) : Eval String := if escape then escaped v else textOf v

end Eval
end SchemaWrappers.Template
