import SchemaWrappers.Script.Frame
import SchemaWrappers.Script.Numbered
import SchemaWrappers.Script.Page

/-! Laying out a script: every token is put on the page in turn, with line breaks and indentation
chosen from the constructs around it. -/
namespace SchemaWrappers.Script

/-- The layout so far. `left` is the frame that was left or entered from last, `earlier` the text of
the token before the last, `behind` the tokens laid out, the latest first. -/
structure Layout where
  options : Options
  page : Page
  frame : Frame := { mode := .block }
  outer : List Frame := []
  left : Frame := { mode := .block }
  earlier : String := ""
  behind : List Mark := []
  ahead : List Token := []

abbrev LayoutM := StateM Layout

namespace Layout

def innermost : LayoutM Frame := return (← get).frame
def settings : LayoutM Options := return (← get).options
def last : LayoutM Mark := return (← get).frame.last
def mode : LayoutM Mode := return (← get).frame.mode

def parent : LayoutM Frame := return (← get).outer.headD { mode := .block }

def onPage (f : Page → Page) : LayoutM Unit := modify fun s => { s with page := f s.page }
def onFrame (f : Frame → Frame) : LayoutM Unit := modify fun s => { s with frame := f s.frame }

def space (b : Bool) : LayoutM Unit := onPage fun p => { p with spaceBefore := b }
def atLineStart : LayoutM Bool := return (← get).page.atLineStart

def next : LayoutM (Option Mark) := return (← get).ahead.head?.map (·.mark)
def nextText : LayoutM String := return ((← next).map (·.text)).getD ""

def indentPage : LayoutM Bool :=
  modifyGet fun s =>
    let (indented, page) := s.page.setIndent s.frame.level s.frame.alignment
    (indented, { s with page })

def enter (m : Mode) : LayoutM Unit := do
  modify fun s =>
    { s with
      outer := s.frame :: s.outer
      left := s.frame
      frame := s.frame.inside m s.page.atLineStart s.page.lineCount }
  discard indentPage

def dropRedundant (f : Frame) : LayoutM Unit :=
  if f.isRedundant then onPage (·.dedentFrom f.startLine) else pure ()

def leave : LayoutM Unit := do
  let s ← get
  match s.outer with
  | [] => pure ()
  | f :: fs =>
    set { s with left := s.frame, frame := f, outer := fs }
    if s.frame.mode == .statement then dropRedundant s.frame
  discard indentPage

def leaveWhile (go : Frame → Bool) : Nat → LayoutM Unit
  | 0 => pure ()
  | fuel + 1 => do
    if go (← innermost) && !(← get).outer.isEmpty then
      leave
      leaveWhile go fuel

/-- Leaves all frames from the innermost on for which `go` holds. -/
def leaveAll (go : Frame → Bool) : LayoutM Unit := do leaveWhile go (← get).outer.length

def leaveStatements : LayoutM Unit := leaveAll fun f => f.mode == .statement

/-- Leaves the statements that end here: an `if` waits for its `else`, a `do` for its `while`. -/
def endStatements : LayoutM Unit := do
  let elseNext := (← next).any (·.isReserved ["else"])
  leaveAll fun f => f.mode == .statement && !(f.ifBlock && elseNext) && !f.doBlock

def indent : LayoutM Unit := do
  onFrame fun f => { f with level := f.level + 1 }
  discard indentPage

def dedent : LayoutM Unit := do
  let outer := (← parent).level
  onFrame fun f => { f with level := if outer < f.level then f.level - 1 else f.level }
  discard indentPage

def newLine (force keepStatements : Bool) : LayoutM Unit := do
  if !keepStatements then
    let m ← last
    if !([";", ",", "="].contains m.text) &&
        (m.cls != .operator || m.text == "--" || m.text == "++") then
      endStatements
  let added ← modifyGet fun s =>
    let (added, page) := s.page.newLine force
    (added, { s with page })
  if added then onFrame fun f => { f with multiline := true }

def indentToken (t : Token) : LayoutM Unit := do
  if ← atLineStart then
    if (← settings).keepArrays && t.newlines != 0 && (t.text == "[" || (← mode).isArray) then
      onPage fun p => { p.outdent.push (String.ofList t.blanks) with spaceBefore := false }
    else if ← indentPage then
      onFrame fun f => { f with lineLevel := f.level }

/-- With leading commas, one that ended the line above moves to the start of this line. -/
def pullComma (t : Token) : LayoutM Unit := do
  let before := (← get).behind.head?
  if (← settings).commaFirst && before.any (·.cls == .comma) && (← atLineStart) then
    match (← get).page.above with
    | l :: ls =>
      if l.pieces.head? == some "," then
        let l := l.pop
        if l.isEmpty then
          onPage fun p =>
            let p := { p with above := l.push "," :: ls }.trimLines
            { p with current := p.current.pop }.trim
        else onPage fun p => { p with above := l :: ls }
        indentToken t
        onPage (·.write ",")
        space true
    | [] => pure ()

def print (t : Token) : LayoutM Unit := do
  if (← get).page.raw then onPage (·.writeRaw t.newlines (String.ofList t.blanks) t.text)
  else
    pullComma t
    indentToken t
    onPage fun p => { p with nonBreaking := true }.write t.text
    if (← get).page.wrapped then onFrame fun f => { f with multiline := true }

/-- Keeps the line break that stood before a token, or marks a place to break a long line. -/
def keepBreak (t : Token) (force : Bool) : LayoutM Unit := do
  if !(← atLineStart) then
    let o ← settings
    let m ← last
    let wanted := (o.preserveNewlines && t.newlines != 0) || force
    let behind := positionable.contains m.text
    let here := positionable.contains t.text
    let allowed := !(behind || here) ||
      (behind && o.operatorPosition != .afterNewline) || here
    if wanted && allowed then newLine false true
    else if 0 < o.wrapLineLength && !m.isReserved restrictedWords then onPage (·.markBreak)

def keepBreaks (t : Token) (keepStatements : Bool) : LayoutM Unit := do
  let o ← settings
  if o.keepArrays && (← mode).isArray then
    (List.range t.newlines).forM fun i => newLine (0 < i) keepStatements
  else
    let n : Int := t.newlines
    let n := if o.maxPreserveNewlines != 0 && o.maxPreserveNewlines < n then o.maxPreserveNewlines
      else n
    if o.preserveNewlines && 1 < n then
      newLine false keepStatements
      (List.range (n - 1).toNat).forM fun _ => newLine true keepStatements

def isBlankLine (cs : List Char) : Bool := cs.all Text.isBlank

/-- Writes a comment of several lines. Lines that start with stars are aligned below the first one;
other lines keep their place relative to it. -/
def blockComment (t : Token) (keepStatements : Bool) : LayoutM Unit := do
  newLine false keepStatements
  indentToken t
  match Lexer.splitLines t.text.toList with
  | [] => pure ()
  | first :: lines =>
    onPage (·.write (String.ofList first))
    newLine false keepStatements
    let starred := lines.all fun l => l.isEmpty || (l.dropWhile Text.isBlank).head? == some '*'
    let shifted := lines.all fun l => t.blanks.isPrefixOf l || isBlankLine l
    if starred && !lines.isEmpty then onFrame fun f => { f with alignment := 1 }
    lines.forM fun l => do
      if starred then
        indentToken t
        onPage (·.write (String.ofList (l.dropWhile Text.isBlank)))
      else if shifted && t.blanks.length < l.length then
        indentToken t
        onPage (·.write (String.ofList (l.drop t.blanks.length)))
      else onPage (·.outdent.write (String.ofList l))
      newLine false keepStatements
    onFrame fun f => { f with alignment := 0 }

def comment (t : Token) (keepStatements : Bool) : LayoutM Unit := do
  match t.cls with
  | .blockComment =>
    if (← get).page.raw then
      print t
      if t.directive == some .resume then onPage fun p => { p with raw := false }
    else if t.directive.isSome then
      newLine false keepStatements
      print t
      if t.directive == some .suspend then onPage fun p => { p with raw := true }
      newLine false true
    else if t.newlines == 0 && !t.text.toList.any Lexer.isNewline then
      space true
      print t
      space true
    else blockComment t keepStatements
  | .comment =>
    if t.newlines != 0 then newLine false keepStatements else onPage (·.trimLines)
    space true
    print t
    newLine false keepStatements
  | _ =>
    print t
    if t.text.endsWith "\n" then newLine false keepStatements

def lead (t : Token) (keepStatements : Bool) : LayoutM Unit := do
  t.comments.forM fun c => do
    keepBreaks c keepStatements
    comment c keepStatements
  keepBreaks t keepStatements

def startsProperty : LayoutM Bool := do
  let f ← innermost
  return (← parent).mode == .object && f.mode == .statement &&
    ((f.last.text == ":" && f.ternaries == 0) || f.last.isReserved ["get", "set"])

def startsStatement (t : Token) : LayoutM Bool := do
  let s ← get
  let f := s.frame
  let m := f.last
  return (m.isReserved ["var", "let", "const"] && t.cls == .word) ||
    m.isReserved ["do"] ||
    (!((← parent).mode == .object && f.mode == .statement) && m.isReserved restrictedWords &&
      t.newlines == 0) ||
    (m.isReserved ["else"] && !(t.mark.isReserved ["if"] && t.comments.isEmpty)) ||
    (m.cls == .endExpr && (s.left.mode == .loopHead || s.left.mode == .condition)) ||
    (m.cls == .word && f.mode == .block && !f.inCase && t.text != "--" && t.text != "++" &&
      s.earlier != "function" && t.cls != .word && t.cls != .reserved) ||
    (f.mode == .object &&
      ((m.text == ":" && f.ternaries == 0) || m.isReserved ["get", "set"]))

def enterStatement (t : Token) : LayoutM Bool := do
  if ← startsStatement t then
    enter .statement
    indent
    lead t true
    if !(← startsProperty) then
      keepBreak t (t.mark.isReserved ["do", "for", "if", "while"])
    return true
  else return false

/-- The star of a generator or of a method in an object. -/
def afterStar : LayoutM Bool := do
  let s ← get
  return s.frame.last.text == "*" && (["function", "yield"].contains s.earlier ||
    (s.frame.mode == .object && ["\x7b", ","].contains s.earlier))

def spaceAfterName : LayoutM Bool := do
  let s ← get
  match s.behind with
  | _ :: two :: rest =>
    let three := rest.head?
    let inClass := (← parent).classStart
    let generator := two.text == "*" && three.any (·.isReserved ["async", "function"])
    let opens (m : Mark) : Bool := m.text == "\x7b" || m.text == ","
    return s.options.spaceAfterNamed &&
      (two.isReserved ["async", "function"] || generator ||
        (if s.frame.mode == .object then opens two || (two.text == "*" && three.any opens)
          else inClass))
  | _ => return false

def spaceBeforeParen (t : Token) : LayoutM Unit := do
  let o ← settings
  let m ← last
  match m.cls with
  | .reserved =>
    if m.text == "for" || ["if", "while", "switch"].contains m.text then
      space o.spaceBeforeCondition
    else if ["await", "async"].contains (← innermost).lastWord then space true
    else if m.text == "import" && t.blanks.isEmpty then space false
    else if lineStarters.contains m.text || m.text == "catch" then space true
  | .equals | .operator => if !(← startsProperty) then keepBreak t false
  | .word => space (← spaceAfterName)
  | _ => keepBreak t false
  let word := (← innermost).lastWord
  if (m.cls == .reserved && (word == "function" || word == "typeof")) || (← afterStar) then
    space o.spaceAfterAnonymous

def startExpr (t : Token) : LayoutM Unit := do
  if !(← enterStatement t) then lead t false
  let o ← settings
  let m ← last
  if t.text == "[" && (m.cls == .word || m.text == ")") then
    if m.isReserved lineStarters then space true
    print t
    enter .expression
    indent
    if o.spaceInParen then space true
  else
    let inside ←
      if t.text == "[" then do
        let f ← innermost
        let earlier := (← get).earlier
        if f.mode.isArray && !o.keepArrays &&
            (m.text == "[" || (m.text == "," && (earlier == "]" || earlier == "\x7d"))) then
          newLine false false
        if !([Class.startExpr, .endExpr, .word, .operator, .dot].contains (← last).cls) then
          space true
        pure Mode.array
      else do
        let inside := if m.cls != .reserved then Mode.expression
          else if m.text == "for" then .loopHead
          else if ["if", "while", "switch"].contains m.text then .condition
          else .expression
        spaceBeforeParen t
        pure inside
    let m ← last
    if m.text == ";" || m.cls == .startBlock then newLine false false
    else if [Class.endExpr, .startExpr, .endBlock, .comma].contains m.cls || m.text == "." then
      keepBreak t (t.newlines != 0)
    print t
    enter inside
    if o.spaceInParen then space true
    indent

def endExpr (t : Token) : LayoutM Unit := do
  leaveStatements
  lead t false
  let o ← settings
  let f ← innermost
  if f.multiline then keepBreak t (t.text == "]" && f.mode.isArray && !o.keepArrays)
  if o.spaceInParen then
    if (← last).cls == .startExpr && !o.spaceInEmptyParen then
      onPage fun p => { p with spaceBefore := false }.trim
    else space true
  dedent
  print t
  leave
  dropRedundant (← get).left
  if (← innermost).doWhile && (← get).left.mode == .condition then
    modify fun s => { s with left := { s.left with mode := .expression } }
    onFrame fun f => { f with doBlock := false, doWhile := false }

/-- What a brace opens, judged by the two tokens behind it and by what stands before it. -/
def braceMode : LayoutM Mode := do
  let s ← get
  let m := s.frame.last
  let words : List Class := [.word, .reserved]
  let pair := match s.ahead with
    | a :: b :: _ =>
      ([":", ","].contains b.text && (words.contains a.cls || a.cls == Class.string)) ||
        (["get", "set", "..."].contains a.text && words.contains b.cls)
    | _ => false
  let colon := match s.ahead with
    | _ :: b :: _ => [":", ","].contains b.text
    | _ => false
  if s.frame.lastWord == "switch" && m.cls == .endExpr then return .block
  else if s.frame.caseBody then return .block
  else if pair then
    return if ["class", "interface"].contains s.earlier && !colon then .block else .object
  else if m.cls == Class.operator && m.text == "=>" then return .block
  else if [Class.equals, .startExpr, .comma, .operator].contains m.cls ||
      m.isReserved ["return", "throw", "import", "default"] then return .object
  else return .block

/-- No line break was written between a brace and the one that closes it. -/
def isInline (t : Token) : List Token → Bool
  | [] => true
  | a :: rest =>
    a.newlines == 0 &&
      (a.cls == .eof || (a.cls == .endBlock && a.opened == some t.index) || isInline t rest)

def startBlock (t : Token) : LayoutM Unit := do
  lead t false
  let o ← settings
  let switched := (← innermost).lastWord == "switch" && (← last).cls == .endExpr
  enter (← braceMode)
  let ahead := (← get).ahead
  onFrame fun f =>
    { f with
      inCaseStatement := switched
      classStart := f.beforeLast.isReserved ["class", "extends"]
      inline := o.braceInline && isInline t ahead }
  let f ← innermost
  let m := f.last
  let empty := ahead.head?.any fun a => a.comments.isEmpty && a.text == "\x7d"
  if (o.braceStyle == .expand || (o.braceStyle == .preserve && t.newlines != 0)) && !f.inline then
    if m.cls != .operator &&
        ((empty && f.lastWord == "function" && m.cls == .endExpr) || m.cls == .equals ||
          (m.isReserved valueWords && m.text != "else")) then
      space true
    else newLine false true
  else if (← get).left.mode.isArray && (m.cls == .startExpr || m.cls == .comma) then
    if f.inline then
      keepBreak t false
      let broken := (← innermost).multiline
      let mark (f : Frame) : Frame := { f with multiline := f.multiline || broken }
      modify fun s =>
        { s with left := mark s.left, outer := (s.outer.take 1).map mark ++ s.outer.drop 1 }
      onFrame fun f => { f with multiline := false }
    else if m.cls == .comma then space true
  else if m.cls != .operator && m.cls != .startExpr then
    if (m.cls == .startBlock || m.cls == .semicolon) && !f.inline then newLine false false
    else space true
  print t
  indent
  if !empty && !(o.braceInline && (← innermost).inline) then newLine false false

def endBlock (t : Token) : LayoutM Unit := do
  lead t false
  leaveStatements
  let f ← innermost
  if f.last.cls != .startBlock then
    if f.inline then space true else newLine false false
  leave
  print t

/-- What stands between a word and the token before it. -/
inductive Gap where
  | none
  | space
  | newline
  deriving DecidableEq

def gapBefore (t : Token) : LayoutM Gap := do
  let s ← get
  let f := s.frame
  let m := f.last
  let gap ←
    if m.cls == .endBlock then do
      if s.left.inline then pure Gap.space
      else if !t.mark.isReserved ["else", "catch", "finally", "from"] then pure Gap.newline
      else
        let style := s.options.braceStyle
        if style == .expand || style == .endExpand ||
            (style == .preserve && t.newlines != 0) then
          pure Gap.newline
        else
          space true
          pure Gap.space
    else if m.cls == .semicolon && f.mode == .block then pure Gap.newline
    else if m.cls == .semicolon && f.mode.isExpression then pure Gap.space
    else if m.cls == .string then pure Gap.newline
    else if m.cls == .reserved || m.cls == .word || (← afterStar) then pure Gap.space
    else if m.cls == .startBlock then pure (if f.inline then Gap.space else .newline)
    else if m.cls == .endExpr then
      space true
      pure Gap.newline
    else pure Gap.none
  if t.mark.isReserved lineStarters && m.text != ")" then
    return if f.inline || m.text == "else " || m.text == "export" then .space else .newline
  else return gap

/-- A function starts its own paragraph, unless it is a value or continues a declaration. -/
def functionWord (t : Token) : LayoutM Unit := do
  let m ← last
  if ["\x7d", ";"].contains m.text ||
      ((← atLineStart) && !(["(", "[", "\x7b", ":", "=", ","].contains m.text || m.cls == .operator)) then
    if !(← get).page.afterBlankLine && t.comments.isEmpty then
      newLine false false
      newLine true false
  let f ← innermost
  let m := f.last
  if m.cls == .reserved || m.cls == .word then
    if m.isReserved ["get", "set", "new", "export"] || m.isReserved restrictedWords ||
        (m.isReserved ["default"] && (← get).earlier == "export") || m.text == "declare" then
      space true
    else newLine false false
  else if m.cls == .operator || m.text == "=" then space true
  else if !f.multiline && (f.mode.isExpression || f.mode.isArray) then pure ()
  else newLine false false
  print t
  onFrame fun f => { f with lastWord := t.text }

/-- Writes the gap before a word that is none of the words laid out by rules of their own. -/
def openGap (t : Token) (gap : Gap) : LayoutM Unit := do
  let s ← get
  let o := s.options
  let m := s.frame.last
  if t.mark.isReserved ["else", "catch", "finally"] then
    let broken := !(m.cls == .endBlock && s.left.mode == .block) || o.braceStyle == .expand ||
      o.braceStyle == .endExpand || (o.braceStyle == .preserve && t.newlines != 0)
    if broken && !s.frame.inline then newLine false false
    else
      onPage (·.trimLines)
      if (← get).page.current.pieces.head? != some "\x7d" then newLine false false
      space true
  else
    match gap with
    | .newline =>
      let declaration := t.mark.isReserved ["var", "let", "const"]
      if m.isReserved valueWords then space true
      else if m.text == "declare" && declaration then space true
      else if m.cls != .endExpr then
        if (m.cls != .startExpr || !declaration) && m.text != ":" then
          if t.mark.isReserved ["if"] && s.behind.head?.any (·.isReserved ["else"]) then space true
          else newLine false false
      else if t.mark.isReserved lineStarters && m.text != ")" then newLine false false
    | gap =>
      if s.frame.multiline && s.frame.mode.isArray && m.text == "," && s.earlier == "\x7d" then
        newLine false false
      else if gap == .space then space true
  if s.behind.head?.any fun b => b.cls == .word || b.cls == .reserved then space true

/-- Words that are reserved only in certain places become plain words in all others. -/
def retype (t : Token) : LayoutM Token := do
  let s ← get
  if t.cls != .reserved then return t
  let text ← nextText
  let isPlain :=
    if ["set", "get"].contains t.text && s.frame.mode != .object then true
    else if t.text == "import" && ["(", "."].contains text then true
    else if ["as", "from"].contains t.text && !s.frame.importBlock then true
    else s.frame.mode == .object && text == ":"
  return if isPlain then { t with mark := { t.mark with cls := .word } } else t

def leadWord (t : Token) : LayoutM Unit := do
  if ← enterStatement t then
    if (← last).isReserved ["var", "let", "const"] && t.cls == .word then
      onFrame fun f => { f with declares := true }
  else
    let m ← last
    let broken := t.newlines != 0 && !(← mode).isExpression &&
      (m.cls != .operator || m.text == "--" || m.text == "++") && m.cls != .equals &&
      ((← settings).preserveNewlines || !m.isReserved ["var", "let", "const", "set", "get"])
    lead t false
    if broken then newLine false false

/-- An `if` is over unless its `else` comes now. -/
def endIf (t : Token) : LayoutM Unit := do
  let f ← innermost
  if f.ifBlock then
    if !f.elseBlock && t.mark.isReserved ["else"] then onFrame fun f => { f with elseBlock := true }
    else
      leaveStatements
      onFrame fun f => { f with ifBlock := false }

def word (t : Token) : LayoutM Unit := do
  leadWord t
  let f ← innermost
  if f.doBlock && !f.doWhile && t.mark.isReserved ["while"] then
    space true
    print t
    space true
    onFrame fun f => { f with doWhile := true }
  else
    if f.doBlock && !f.doWhile then
      newLine false false
      onFrame fun f => { f with doBlock := false }
    endIf t
    let f ← innermost
    if f.inCaseStatement && t.mark.isReserved ["case", "default"] then
      newLine false false
      let f ← innermost
      if !f.caseBlock && (f.caseBody || (← settings).caseWithSwitch) then dedent
      onFrame fun f => { f with caseBody := false }
      print t
      onFrame fun f => { f with inCase := true }
    else
      if [Class.comma, .startExpr, .equals, .operator].contains f.last.cls then
        let signed := ["+", "-"].contains f.last.text && (← get).earlier == ":" &&
          (← parent).mode == .object
        if !(← startsProperty) && !signed then keepBreak t false
      if t.mark.isReserved ["function"] then functionWord t
      else
        openGap t (← gapBefore t)
        print t
        onFrame fun f => { f with lastWord := t.text }
        if t.cls == .reserved then
          onFrame fun f =>
            match t.text with
            | "do" => { f with doBlock := true }
            | "if" => { f with ifBlock := true }
            | "import" => { f with importBlock := true }
            | "from" => { f with importBlock := false }
            | _ => f

def semicolon (t : Token) : LayoutM Unit := do
  if ← enterStatement t then space false else lead t false
  endStatements
  onFrame fun f => { f with importBlock := false }
  print t

def string (t : Token) : LayoutM Unit := do
  let before := (← get).behind.head?.getD ⟨.start, ""⟩
  let template := t.text.startsWith "`"
  if template && t.newlines == 0 && t.blanks.isEmpty &&
      (before.text == ")" || (← last).cls == .word) then
    pure ()
  else if ← enterStatement t then space true
  else
    lead t false
    let f ← innermost
    let m := f.last
    if m.cls == .reserved || m.cls == .word || f.inline then space true
    else if [Class.comma, .startExpr, .equals, .operator].contains m.cls then
      if !(← startsProperty) then keepBreak t false
    else if template && m.cls == .endExpr && (before.text == "]" || before.text == ")") &&
        t.newlines == 0 then
      space true
    else newLine false false
  print t

def equals (t : Token) : LayoutM Unit := do
  if !(← enterStatement t) then lead t false
  onFrame fun f => { f with assigns := f.assigns || f.declares }
  space true
  print t
  space true

def comma (t : Token) : LayoutM Unit := do
  lead t true
  print t
  space true
  let o ← settings
  let f ← innermost
  let outer := (← parent).mode
  if f.declares then
    if outer.isExpression then onFrame fun f => { f with assigns := false }
    if (← innermost).assigns then
      onFrame fun f => { f with assigns := false }
      newLine false true
    else if o.commaFirst then keepBreak t false
  else if f.mode == .object || (f.mode == .statement && outer == .object) then
    if f.mode == .statement then leave
    if !(← innermost).inline then newLine false false
  else if o.commaFirst then keepBreak t false

/-- Writes an operator at which lines may break, the break before or behind it as set. -/
def breakable (t : Token) (inTernary : Bool) : LayoutM Unit := do
  let colon := t.text == ":" && !inTernary
  match (← settings).operatorPosition with
  | .beforeNewline =>
    space (!colon)
    print t
    if !colon then keepBreak t false
  | .afterNewline =>
    space true
    if colon then space false
    else if (← get).ahead.head?.any (·.newlines != 0) then newLine false true
    else keepBreak t false
    print t
  | .preserveNewline =>
    if !colon then keepBreak t false
    space (!((← atLineStart) || colon))
    print t
  space true

/-- Operators before their operand, or behind it; answers whether a space goes before and behind. -/
def unary (t : Token) : LayoutM (Bool × Bool) := do
  let m ← last
  if m.cls == .comma || m.cls == .startExpr then keepBreak t false
  if t.newlines != 0 && ["--", "++", "~"].contains t.text then
    let bare := (← last).isReserved valueWords
    let before := (← get).left
    if bare && (before.ifBlock || before.elseBlock) then leave
    newLine bare true
  let signs := ["--", "-", "++", "+"]
  let f ← innermost
  let m := f.last
  let loop := m.text == ";" && f.mode.isExpression
  let before :=
    if m.cls == .reserved then true
    else if m.cls == .endExpr then !(m.text == "]" && (t.text == "--" || t.text == "++"))
    else if m.cls == .operator then signs.contains t.text && signs.contains m.text
    else loop
  let behind := m.cls == .operator && ["+", "-"].contains t.text && ["--", "++"].contains m.text
  if ((f.mode == .block && !f.inline) || f.mode == .statement) && (m.text == "\x7b" || m.text == ";") then
    newLine false false
  return (before, behind)

/-- Counts the open question marks; tells whether a colon answers one. -/
def ternary (t : Token) : LayoutM Bool := do
  let n := (← innermost).ternaries
  if t.text == ":" then
    onFrame fun f => { f with ternaries := n - 1 }
    return n != 0
  else
    if t.text == "?" then onFrame fun f => { f with ternaries := n + 1 }
    return false

def operator (t : Token) : LayoutM Unit := do
  let m ← last
  let generator := t.text == "*" && (m.isReserved ["function", "yield"] ||
    [Class.startBlock, .comma, .endBlock, .semicolon].contains m.cls)
  let sign := ["+", "-"].contains t.text &&
    ([Class.startBlock, .startExpr, .equals, .operator].contains m.cls ||
      lineStarters.contains m.text || m.text == ",")
  if !(← enterStatement t) then lead t (!generator)
  let m ← last
  let o ← settings
  if (t.text == "*" && m.cls == .dot) || t.text == "::" ||
      (["-", "+"].contains t.text && (← startsProperty)) then
    print t
  else
    if m.cls == .operator && o.operatorPosition != .afterNewline then keepBreak t false
    if t.text == ":" && (← innermost).inCase then
      print t
      onFrame fun f => { f with inCase := false, caseBody := true }
      if (← next).any (·.cls == .startBlock) then
        space true
        onFrame fun f => { f with caseBlock := true }
      else
        indent
        newLine false false
        onFrame fun f => { f with caseBlock := false }
    else
      let inTernary ← ternary t
      if !sign && !generator && o.preserveNewlines && positionable.contains t.text then
        breakable t inTernary
      else
        let (before, behind) ←
          if generator then do
            keepBreak t false
            pure (false, (← next).any fun a => a.cls == .word || a.cls == .reserved)
          else if t.text == "..." then do
            keepBreak t false
            pure ((← last).cls == .startBlock, false)
          else if ["--", "++", "!", "~"].contains t.text || sign then unary t
          else pure (t.text != ":" || inTernary, true)
        onPage fun p => { p with spaceBefore := p.spaceBefore || before }
        print t
        space behind

def dot (t : Token) : LayoutM Unit := do
  if !(← enterStatement t) then lead t true
  let m ← last
  let o ← settings
  if m.text != "" && m.text.toList.all (·.isDigit) then space true
  if m.isReserved valueWords then space false
  else keepBreak t (m.text == ")" && o.breakChained)
  if o.unindentChained && (← atLineStart) then dedent
  print t

def endOfText (t : Token) : LayoutM Unit := do
  leaveStatements
  lead t false

def token (t : Token) : LayoutM Unit :=
  match t.cls with
  | .startExpr => startExpr t
  | .endExpr => endExpr t
  | .startBlock => startBlock t
  | .endBlock => endBlock t
  | .word | .reserved => word t
  | .semicolon => semicolon t
  | .string => string t
  | .equals => equals t
  | .operator => operator t
  | .comma => comma t
  | .dot => dot t
  | .eof => endOfText t
  | _ => comment t false

def tokens : List Token → LayoutM Unit
  | [] => pure ()
  | t :: ts => do
    modify fun s => { s with ahead := ts }
    let t ← retype t
    token t
    modify fun s =>
      { s with
        earlier := s.frame.last.text
        behind := t.mark :: s.behind
        frame := { s.frame with
          last := t.mark, beforeLast := s.behind.head?.getD ⟨.start, ""⟩ } }
    tokens ts

def firstBreak : List Char → String
  | [] => "\n"
  | '\r' :: '\n' :: _ => "\r\n"
  | c :: cs => if Lexer.isNewline c then c.toString else firstBreak cs

/-- The text laid out anew; nothing if its tokens cannot be told or the settings do not fit it. -/
def format (o : Options) (source : String) : Option String := do
  if o.disabled then return source
  let cs := source.toList
  let base := String.ofList (cs.takeWhile fun c => c == '\t' || c == ' ')
  let ts ← tokens? (← Packed.unpacked cs)
  let page := (Page.ofOptions o base).setIndent 0 0 |>.2
  let start : Layout := { options := o, page, frame := { mode := .block, startLine := 1 } }
  let ((), done) := (tokens ts).run start
  done.page.text o.endWithNewline (o.eol.getD (firstBreak cs))

end Layout
end SchemaWrappers.Script
