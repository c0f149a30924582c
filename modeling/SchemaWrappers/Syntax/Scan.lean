import SchemaWrappers.Syntax.LineEnd
import SchemaWrappers.Syntax.Readings

namespace SchemaWrappers.Syntax

/-- A text, and the table by which it is read. -/
structure Job where
  table : Table
  text : SourceText

namespace Job
variable (j : Job)

private def seeks (valid : TokenSet) (f : Form) : Bool := valid.has (j.table.number (.form f))

/-- A token that is told by what stands around it. An operator could come next where `||` could. -/
private def toldToken (valid : TokenSet) (i : Nat) : Option (Form × Span) :=
  let t := j.text
  let sought := j.seeks valid
  let operators := valid.has (j.table.number (.text "||"))
  let question := (t.questionMark · |>.map (Form.questionMark, ·))
  if sought .templateText then
    if sought .lineEnd then none else (t.templateText i).map (.templateText, ·)
  else if sought .lineEnd || sought .signatureEnd then
    let e := t.statementEnd operators (sought .signatureEnd) i
    if e.ends then some (.lineEnd, ⟨i, i⟩)
    else if !e.sawComment && sought .questionMark && t.at_ e.place == '?' then question e.place
    else none
  else if sought .questionMark then question i
  else if sought .pageComment && !operators && !sought .escape && !sought .patternText then
    (t.pageComment i).map (.pageComment, ·)
  else none

/-- The place behind a token of a form that its own characters tell. -/
private def stopOf (f : Form) (i : Nat) : Option Nat :=
  let t := j.text
  let quoted (mark : Char) : Option Nat :=
    t.some1 (fun c => !(c == mark || c == '\\' || c == '\r' || c == '\n')) i
  match f with
  | .doubleQuotedText => quoted '"'
  | .singleQuotedText => quoted '\''
  | .escape => t.escape i
  | .patternText => t.pattern i
  | .patternEnd => if t.has i ['/'] then some (i + 1) else none
  | .patternFlags => t.some1 (fun c => 'a' ≤ c && c ≤ 'z') i
  | .comment => t.comment i
  | .interpreterLine => if t.has i ['#', '!'] then some (t.skip (· != '\n') i) else none
  | .privateName => if t.at_ i == '#' then t.name (i + 1) else none
  | .number => t.number i
  | .name => t.name i
  | _ => none

private def tokenOf (valid : TokenSet) (i : Nat) (f : Form) : Option (Nat × Span) :=
  if j.seeks valid f then (j.stopOf f i).map fun k => (j.table.number (.form f), ⟨i, k⟩) else none

private def piece? (valid : TokenSet) (i : Nat) : Option (Nat × Span) :=
  [Form.doubleQuotedText, .singleQuotedText, .escape, .patternText, .patternEnd].findSome?
    (j.tokenOf valid i)

/-- The longer of two tokens, the first of two that are as long. -/
private def longer (a b : Option (Nat × Span)) : Option (Nat × Span) :=
  match a, b with
  | some x, some y => if x.2.stop < y.2.stop then b else a
  | none, b => b
  | a, none => a

/-- A token that may follow a gap; of several the longest. Every word is looked for as a name. -/
private def ownToken (valid : TokenSet) (i : Nat) : Option (Nat × Span) :=
  let t := j.text
  match j.piece? valid i with
  | some found => some found
  | none =>
    let flags := j.tokenOf valid i .patternFlags
    let i := t.skip isGap i
    if t.size ≤ i then flags.or (if valid.has 0 then some (0, ⟨i, i⟩) else none)
    else
      let sign := (j.table.signs.find? fun (cs, n) => t.has i cs && valid.has n).map
        fun (cs, n) => (n, (⟨i, i + cs.length⟩ : Span))
      let forms := [Form.comment, .interpreterLine, .privateName, .number].map (j.tokenOf valid i)
      let names := if valid &&& j.table.anyWord == 0 then valid else valid ||| (1 <<< Productions.word)
      (sign :: forms ++ [j.tokenOf names i .name]).foldl longer flags

private def reached (i : Nat) : Nat :=
  let t := j.text
  let escaped (i : Nat) : Nat := (t.escapedInName i).1
  match t.at_ i with
  | '#' => if t.at_ (i + 1) == '\\' then escaped (i + 1) else i + 1
  | '\\' => escaped i
  | _ => i

/-- What was found: a token, perhaps one told by what stands around it, or text that makes no
sense. -/
private inductive Found where
  | token (symbol : Nat) (span : Span) (told : Bool)
  | skipped (span : Span)

/-- Looks for a token that a state seeks; `useful` tells whether an empty token is of use. -/
private def found (valid : TokenSet) (i : Nat) (useful : Nat → Bool) : Option Found :=
  let told := (j.toldToken valid i).bind fun (f, s) =>
    let n := j.table.number (.form f)
    if i < s.stop || useful n then some (.token n s true) else none
  told.or ((j.ownToken valid i).map fun (n, s) => .token n s false)

/-- Skips text until any token at all is found. `from?` is where the skipped text begins, `stop` where
it ends so far. -/
private def skipUntilFound (valid : TokenSet) : Nat → Nat → Option Nat → Nat → Found
  | 0, _, from?, stop => .skipped ⟨from?.getD stop, stop⟩
  | fuel + 1, i, from?, stop =>
    match j.found valid i fun _ => false with
    | some f =>
      match from? with
      | none => f
      | some start => .skipped ⟨start, stop⟩
    | none =>
      let next := j.text.skip isGap i
      let start := from?.getD next
      let stop := if from?.isSome then stop else next
      let far := j.reached next
      if far == stop then
        if j.text.size ≤ far then .skipped ⟨start, stop⟩
        else skipUntilFound valid fuel (far + 1) (some start) (far + 1)
      else skipUntilFound valid fuel far (some start) far

/-- The next token for a reading. -/
def scan (s : Readings) (v : Nat) : Tree :=
  let p := j.table.productions
  let state := s.state v
  let place := s.place v
  let any := j.table.valid Table.faultState
  let atFault := state == Table.faultState
  let useful (n : Nat) : Bool :=
    !atFault && s.hasAdvanced v && j.table.next state n != state
  let first := if atFault then none else j.found (j.table.valid state) place useful
  match first.getD (j.skipUntilFound any (j.text.size + 2) place none place) with
  | .skipped ⟨start, stop⟩ => Tree.token p Tree.faultSymbol place start stop false
  | .token n ⟨start, stop⟩ told =>
    let word := if told || n != Productions.word then none
      else j.table.words[j.text.between start stop]?
    match word with
    | some w =>
      let symbol := if (j.table.actionsOn state w).isEmpty then n else w
      Tree.token p symbol place start stop true
    | none => Tree.token p n place start stop false

end Job
end SchemaWrappers.Syntax
