import SchemaWrappers.Yaml.Token

/-! Cutting a YAML text into tokens. Indentation opens and closes blocks, and a colon makes a key of
what stood before it on its line. -/
namespace SchemaWrappers.Yaml.Lexer

/-- What may become a key when a colon follows: the tokens before it, where it starts, and whether a
colon must follow. -/
structure Candidate where
  tokens : Nat
  required : Bool
  index : Nat
  line : Nat
  column : Nat

/-- `tokens` holds the latest token first; `candidates` has at most one entry for each depth of flow
brackets. -/
structure State where
  rest : List Char
  index : Nat := 0
  line : Nat := 0
  column : Nat := 0
  depth : Nat := 0
  indent : Int := -1
  outer : List Int := []
  keyAllowed : Bool := true
  candidates : List (Nat × Candidate) := []
  tokens : List Token := []

abbrev LexerM := StateT State (Except Error)

def fail : LexerM α := throw .malformed

def isBreak (c : Char) : Bool :=
  c == '\n' || c == '\r' || c == '\x85' || c == '\u2028' || c == '\u2029'

def isEnd (c : Char) : Bool := c == '\x00'

def isBreakOrEnd (c : Char) : Bool := isBreak c || isEnd c
def isGap (c : Char) : Bool := isBreakOrEnd c || c == ' ' || c == '\t'
def isSpaceOrBreak (c : Char) : Bool := isBreakOrEnd c || c == ' '

def charAt (s : State) (n : Nat) : Char := (s.rest[n]?).getD '\x00'

def peek (n : Nat := 0) : LexerM Char := return charAt (← get) n

def startsWith (text : String) : LexerM Bool := return text.toList.isPrefixOf (← get).rest

def step (s : State) : State :=
  match s.rest with
  | [] => s
  | c :: cs =>
    if isBreak c && !(c == '\r' && cs.head? == some '\n') then
      { s with rest := cs, index := s.index + 1, line := s.line + 1, column := 0 }
    else if c == '\ufeff' then { s with rest := cs, index := s.index + 1 }
    else { s with rest := cs, index := s.index + 1, column := s.column + 1 }

def steps (s : State) : Nat → State
  | 0 => s
  | n + 1 => steps (step s) n

def forward (n : Nat) : LexerM Unit := modify (steps · n)

/-- Takes the characters as long as `p` holds. -/
def takeWhile (p : Char → Bool) : LexerM (List Char) := do
  let cs := (← get).rest.takeWhile p
  forward cs.length
  return cs

def skipWhile (p : Char → Bool) : LexerM Unit := discard (takeWhile p)

/-- Takes a line break, which reads as a line feed unless it is a separator of its own. -/
def lineBreak : LexerM (List Char) := do
  let c ← peek
  if isBreak c then
    forward (if (← startsWith "\r\n") then 2 else 1)
    return [if c == '\u2028' || c == '\u2029' then c else '\n']
  else return []

def push (t : Token) : LexerM Unit := modify fun s => { s with tokens := t :: s.tokens }

def insertAfter (n : Nat) (t : Token) : LexerM Unit := modify fun s =>
  let k := s.tokens.length - n
  { s with tokens := s.tokens.take k ++ t :: s.tokens.drop k }

/-- Closes the blocks that are indented deeper than `column`. -/
def unwind (column : Int) : LexerM Unit := modify fun s =>
  if s.depth != 0 then s
  else go column s s.outer
where
  go (column : Int) (s : State) : List Int → State
    | [] => s
    | i :: is =>
      if column < s.indent then
        go column { s with indent := i, outer := is, tokens := .blockEnd :: s.tokens } is
      else s

def openBlock (column : Nat) : LexerM Bool := do
  let s ← get
  if s.indent < column then
    set { s with indent := column, outer := s.indent :: s.outer }
    return true
  else return false

def Candidate.isStale (c : Candidate) (s : State) : Bool := c.line != s.line || 1024 < s.index - c.index

/-- Gives up candidates that are too far back. -/
def dropStale : LexerM Unit := do
  let s ← get
  if s.candidates.any fun c => c.2.isStale s && c.2.required then fail
  else set { s with candidates := s.candidates.filter fun c => !c.2.isStale s }

def dropCandidate : LexerM Unit := do
  let s ← get
  match s.candidates.lookup s.depth with
  | some c =>
    if c.required then fail
    else set { s with candidates := s.candidates.filter (·.1 != s.depth) }
  | none => pure ()

/-- What comes next may become a key. -/
def addCandidate : LexerM Unit := do
  if (← get).keyAllowed then
    dropCandidate
    modify fun s =>
      let c : Candidate := {
        tokens := s.tokens.length
        required := s.depth == 0 && s.indent == s.column
        index := s.index, line := s.line, column := s.column }
      { s with candidates := (s.depth, c) :: s.candidates }

def allowKey (b : Bool) : LexerM Unit := modify fun s => { s with keyAllowed := b }

def inFlow : LexerM Bool := return (← get).depth != 0

def skipToToken : Nat → LexerM Unit
  | 0 => pure ()
  | fuel + 1 => do
    skipWhile (· == ' ')
    if (← peek) == '#' then skipWhile (!isBreak ·)
    if (← lineBreak).isEmpty then pure ()
    else
      if !(← inFlow) then allowKey true
      skipToToken fuel

def isWordChar (c : Char) : Bool := c.isAlphanum || c == '-' || c == '_'

def isHex (c : Char) : Bool := c.isDigit || ('a' ≤ c.toLower && c.toLower ≤ 'f')

def hexValue (cs : List Char) : Nat :=
  cs.foldl (fun n c => n * 16 +
    if c.isDigit then c.toNat - '0'.toNat else c.toLower.toNat - 'a'.toNat + 10) 0

/-- The bytes that escapes at the head stand for, and the number of characters they take. -/
def escapedBytes : List Char → List UInt8
  | '%' :: a :: b :: cs =>
    if isHex a && isHex b then UInt8.ofNat (hexValue [a, b]) :: escapedBytes cs else []
  | _ => []

def isUriChar (c : Char) : Bool := c.isAlphanum || "-;/?:@&=+$,_.!~*'()[]".toList.contains c

def uriParts : Nat → LexerM (List Char)
  | 0 => pure []
  | fuel + 1 => do
    let plain ← takeWhile isUriChar
    if (← peek) == '%' then
      let bytes := escapedBytes (← get).rest
      forward (3 * bytes.length)
      if (← peek) == '%' || bytes.isEmpty then fail
      match Utf8.decode bytes with
      | .ok cs => return plain ++ cs ++ (← uriParts fuel)
      | .error _ => fail
    else return plain

def uri : LexerM String := do
  let cs ← uriParts ((← get).rest.length + 1)
  if cs.isEmpty then fail else return String.ofList cs

/-- The handle of a tag: an exclamation mark alone, or two around a word. -/
def tagHandle : LexerM String := do
  if (← peek) != '!' then fail
  else
    forward 1
    if (← peek) == ' ' then return "!"
    let w ← takeWhile isWordChar
    if (← peek) == '!' then
      forward 1
      return "!" ++ String.ofList w ++ "!"
    else fail

def demand (p : Char → Bool) : LexerM Unit := do if p (← peek) then pure () else fail

def decimal : LexerM Nat := do
  let ds ← takeWhile (·.isDigit)
  if ds.isEmpty then fail
  else if Text.digitLimit < ds.length then throw (.tooLong ds.length)
  else return ds.foldl (fun n c => n * 10 + (c.toNat - '0'.toNat)) 0

def restOfLine : LexerM Unit := do
  skipWhile (· == ' ')
  if (← peek) == '#' then skipWhile (!isBreak ·)
  demand isBreakOrEnd
  discard lineBreak

def directive : LexerM Token := do
  forward 1
  let name := String.ofList (← takeWhile isWordChar)
  if name.isEmpty then fail
  demand isSpaceOrBreak
  let token ← match name with
    | "YAML" => do
      skipWhile (· == ' ')
      let major ← decimal
      demand (· == '.')
      forward 1
      let _ ← decimal
      demand isSpaceOrBreak
      pure (Token.version major)
    | "TAG" => do
      skipWhile (· == ' ')
      let handle ← tagHandle
      demand (· == ' ')
      skipWhile (· == ' ')
      let long ← uri
      demand isSpaceOrBreak
      pure (Token.tagShort handle long)
    | _ => do
      skipWhile (!isBreak ·)
      pure Token.otherDirective
  restOfLine
  return token

def anchorName : LexerM String := do
  forward 1
  let w ← takeWhile isWordChar
  if w.isEmpty then fail
  demand fun c => isGap c || "?:,]\x7d%@`".toList.contains c
  return String.ofList w

def tag : LexerM Token := do
  let c ← peek 1
  let token ←
    if c == '<' then do
      forward 2
      let suffix ← uri
      demand (· == '>')
      forward 1
      pure (Token.tag none suffix)
    else if isGap c then do
      forward 1
      pure (Token.tag none "!")
    else do
      let word := ((← get).rest.drop 1).takeWhile (!isSpaceOrBreak ·)
      let handle ← if word.contains '!' then tagHandle else do forward 1; pure "!"
      pure (Token.tag (some handle) (← uri))
  demand isSpaceOrBreak
  return token

def blockBreaks (indent : Nat) : Nat → LexerM (List Char)
  | 0 => pure []
  | fuel + 1 => do
    let s ← get
    forward ((s.rest.takeWhile (· == ' ')).length.min (indent - s.column))
    match ← lineBreak with
    | [] => return []
    | b => return b ++ (← blockBreaks indent fuel)

/-- Blanks and line breaks before the first line of a block scalar, and the greatest column that
was reached. -/
def blockIndentation (most : Nat) : Nat → LexerM (List Char × Nat)
  | 0 => pure ([], most)
  | fuel + 1 => do
    skipWhile (· == ' ')
    let most := max most (← get).column
    match ← lineBreak with
    | [] => return ([], most)
    | b =>
      let (bs, most) ← blockIndentation most fuel
      return (b ++ bs, most)

def blockLines (folded : Bool) (indent : Nat) :
    Nat → List Char → LexerM (List Char × List Char × List Char)
  | 0, breaks => pure ([], [], breaks)
  | fuel + 1, breaks => do
    if (← get).column != indent || isEnd (← peek) then return ([], [], breaks)
    else
      let indented := (← peek) == ' ' || (← peek) == '\t'
      let line ← takeWhile (!isBreak ·)
      let ended ← lineBreak
      let next ← blockBreaks indent ((← get).rest.length + 1)
      if (← get).column == indent && !isEnd (← peek) then
        let c ← peek
        let join := if folded && ended == ['\n'] && !indented && c != ' ' && c != '\t' then
            if next.isEmpty then [' '] else []
          else ended
        let (rest, last, after) ← blockLines folded indent fuel next
        return (breaks ++ line ++ join ++ rest, last, after)
      else return (breaks ++ line, ended, next)

/-- The marks behind a bar or an angle: whether line breaks at the end are kept (`+`) or dropped
(`-`), and the depth of the indentation. -/
def blockMarks : LexerM (Option Bool × Option Nat) := do
  let keep : LexerM (Option Bool) := do
    match ← peek with
    | '+' => forward 1; return some true
    | '-' => forward 1; return some false
    | _ => return none
  let depth : LexerM (Option Nat) := do
    let c ← peek
    if c.isDigit then
      if c == '0' then fail
      forward 1
      return some (c.toNat - '0'.toNat)
    else return none
  let first ← keep
  let d ← depth
  let kept ← if first.isNone && d.isSome then keep else pure first
  demand isSpaceOrBreak
  return (kept, d)

def blockScalar (folded : Bool) : LexerM Token := do
  forward 1
  let (kept, depth) ← blockMarks
  restOfLine
  let fuel := (← get).rest.length + 1
  let least := ((← get).indent + 1).toNat.max 1
  let (breaks, indent) ← match depth with
    | some d => do
      let indent := least + d - 1
      pure (← blockBreaks indent fuel, indent)
    | none => do
      let (breaks, most) ← blockIndentation 0 fuel
      pure (breaks, max least most)
  let (text, last, after) ← blockLines folded indent fuel breaks
  let tail := match kept with
    | some false => []
    | none => last
    | some true => last ++ after
  return .scalar (.text (String.ofList (text ++ tail))) false

/-- Two marks of three characters separate documents. -/
def atSeparator : LexerM Bool := do
  return ((← startsWith "---") || (← startsWith "...")) && isGap (← peek 3)

def escapes : List (Char × Char) :=
  [('0', '\x00'), ('a', '\x07'), ('b', '\x08'), ('t', '\t'), ('\t', '\t'), ('n', '\n'),
    ('v', '\x0b'), ('f', '\x0c'), ('r', '\r'), ('e', '\x1b'), (' ', ' '), ('"', '"'), ('\\', '\\'),
    ('/', '/'), ('N', '\x85'), ('_', '\xa0'), ('L', '\u2028'), ('P', '\u2029')]

def codeLength (c : Char) : Option Nat :=
  match c with
  | 'x' => some 2
  | 'u' => some 4
  | 'U' => some 8
  | _ => none

def quotedBreaks : Nat → LexerM (List Char)
  | 0 => pure []
  | fuel + 1 => do
    if ← atSeparator then fail
    skipWhile fun c => c == ' ' || c == '\t'
    match ← lineBreak with
    | [] => return []
    | b => return b ++ (← quotedBreaks fuel)

/-- The characters of a quoted scalar up to blanks or its end, by their numbers. -/
def quotedChars (double : Bool) : Nat → LexerM (List Nat)
  | 0 => pure []
  | fuel + 1 => do
    let plain := (← takeWhile fun c => !isGap c && c != '\'' && c != '"' && c != '\\').map Char.toNat
    let c ← peek
    if !double && c == '\'' && (← peek 1) == '\'' then
      forward 2
      return plain ++ c.toNat :: (← quotedChars double fuel)
    else if (double && c == '\'') || (!double && (c == '"' || c == '\\')) then
      forward 1
      return plain ++ c.toNat :: (← quotedChars double fuel)
    else if double && c == '\\' then
      forward 1
      let e ← peek
      match escapes.lookup e, codeLength e with
      | some r, _ =>
        forward 1
        return plain ++ r.toNat :: (← quotedChars double fuel)
      | none, some n =>
        let ds := ((← get).rest.drop 1).take n
        if ds.length != n || !ds.all isHex then fail
        if 0x7fffffff < hexValue ds then throw .noNumber
        if 0x10ffff < hexValue ds then throw .noCharacter
        forward (n + 1)
        return plain ++ hexValue ds :: (← quotedChars double fuel)
      | none, none =>
        if isBreak e then
          discard lineBreak
          let bs ← quotedBreaks ((← get).rest.length + 1)
          return plain ++ bs.map Char.toNat ++ (← quotedChars double fuel)
        else fail
    else return plain

/-- Blanks inside a quoted scalar; a line break reads as a space. -/
def quotedSpaces : LexerM (List Char) := do
  let blanks ← takeWhile fun c => c == ' ' || c == '\t'
  if isEnd (← peek) then fail
  match ← lineBreak with
  | [] => return blanks
  | b =>
    let bs ← quotedBreaks ((← get).rest.length + 1)
    return (if b != ['\n'] then b else if bs.isEmpty then [' '] else []) ++ bs

def quotedRest (quote : Char) : Nat → LexerM (List Nat)
  | 0 => fail
  | fuel + 1 => do
    if (← peek) == quote then
      forward 1
      return []
    else
      let spaces ← quotedSpaces
      let chars ← quotedChars (quote == '"') ((← get).rest.length + 1)
      return spaces.map Char.toNat ++ chars ++ (← quotedRest quote fuel)

def quotedScalar (quote : Char) : LexerM Token := do
  forward 1
  let fuel := (← get).rest.length + 1
  let chars ← quotedChars (quote == '"') fuel
  return .scalar (.ofCodes (chars ++ (← quotedRest quote fuel))) false

def plainLength (flow : Bool) : List Char → Nat
  | [] => 0
  | c :: cs =>
    let next := cs.head?.getD '\x00'
    let flowMark (c : Char) : Bool := ",[]\x7b\x7d".toList.contains c
    if isGap c || (c == ':' && (isGap next || (flow && flowMark next))) ||
        (flow && (flowMark c || c == '?')) then 0
    else plainLength flow cs + 1

def plainBreaks : Nat → LexerM (Option (List Char))
  | 0 => pure (some [])
  | fuel + 1 => do
    if ← atSeparator then return none
    skipWhile (· == ' ')
    match ← lineBreak with
    | [] => return some []
    | b => return (← plainBreaks fuel).map (b ++ ·)

/-- Blanks inside a plain scalar; a line break reads as a space. -/
def plainSpaces : LexerM (List Char) := do
  let blanks ← takeWhile (· == ' ')
  match ← lineBreak with
  | [] => return blanks
  | b =>
    allowKey true
    match ← plainBreaks ((← get).rest.length + 1) with
    | none => return []
    | some bs => return (if b != ['\n'] then b else if bs.isEmpty then [' '] else []) ++ bs

def plainRest (indent : Int) : Nat → List Char → LexerM (List Char)
  | 0, _ => pure []
  | fuel + 1, spaces => do
    if (← peek) == '#' then return []
    else
      match plainLength (← inFlow) (← get).rest with
      | 0 => return []
      | n =>
        allowKey false
        let cs := (← get).rest.take n
        forward n
        let next ← plainSpaces
        if next.isEmpty || (← peek) == '#' || (!(← inFlow) && (← get).column < indent) then
          return spaces ++ cs
        else return spaces ++ cs ++ (← plainRest indent fuel next)

def plainScalar : LexerM Token := do
  let indent := (← get).indent + 1
  return .scalar (.text (String.ofList (← plainRest indent ((← get).rest.length + 1) []))) true

def candidate (token : LexerM Token) : LexerM Unit := do
  addCandidate
  allowKey false
  push (← token)

def documentMark (t : Token) : LexerM Unit := do
  unwind (-1)
  dropCandidate
  allowKey false
  forward 3
  push t

def flowStart (t : Token) : LexerM Unit := do
  addCandidate
  modify fun s => { s with depth := s.depth + 1 }
  allowKey true
  forward 1
  push t

def flowEnd (t : Token) : LexerM Unit := do
  dropCandidate
  if !(← inFlow) then fail
  modify fun s => { s with depth := s.depth - 1 }
  allowKey false
  forward 1
  push t

/-- Opens a block for an entry or a key that stands here. -/
def enterBlock (t : Token) : LexerM Unit := do
  if !(← inFlow) then
    if !(← get).keyAllowed then fail
    if ← openBlock (← get).column then push t

def blockEntry : LexerM Unit := do
  enterBlock .blockSequenceStart
  allowKey true
  dropCandidate
  forward 1
  push .blockEntry

def key : LexerM Unit := do
  enterBlock .blockMappingStart
  allowKey (!(← inFlow))
  dropCandidate
  forward 1
  push .key

/-- A colon makes a key of the candidate before it. -/
def value : LexerM Unit := do
  let s ← get
  match s.candidates.lookup s.depth with
  | some c =>
    set { s with candidates := s.candidates.filter (·.1 != s.depth) }
    insertAfter c.tokens .key
    if s.depth == 0 then
      if ← openBlock c.column then insertAfter c.tokens .blockMappingStart
    allowKey false
  | none =>
    enterBlock .blockMappingStart
    allowKey (!(← inFlow))
    dropCandidate
  forward 1
  push .value

def startsPlain (c next : Char) (flow : Bool) : Bool :=
  !(isGap c || "-?:,[]\x7b\x7d#&*!|>'\"%@`".toList.contains c) ||
    (!isGap next && (c == '-' || (!flow && (c == '?' || c == ':'))))

/-- Reads one token; tells whether there was one. -/
def next : LexerM Bool := do
  skipToToken ((← get).rest.length + 1)
  dropStale
  unwind (← get).column
  let c ← peek
  let after ← peek 1
  let flow ← inFlow
  let atStart := (← get).column == 0
  let indicates := flow || isGap after
  if isEnd c then
    unwind (-1)
    dropCandidate
    return false
  else
    if c == '%' && atStart then
      unwind (-1)
      dropCandidate
      allowKey false
      push (← directive)
    else if c == '-' && atStart && (← startsWith "---") && isGap (← peek 3) then
      documentMark .documentStart
    else if c == '.' && atStart && (← startsWith "...") && isGap (← peek 3) then
      documentMark .documentEnd
    else if c == '[' then flowStart .flowSequenceStart
    else if c == '\x7b' then flowStart .flowMappingStart
    else if c == ']' then flowEnd .flowSequenceEnd
    else if c == '\x7d' then flowEnd .flowMappingEnd
    else if c == ',' then
      allowKey true
      dropCandidate
      forward 1
      push .flowEntry
    else if c == '-' && isGap after then blockEntry
    else if c == '?' && indicates then key
    else if c == ':' && indicates then value
    else if c == '*' then candidate (do return .alias (← anchorName))
    else if c == '&' then candidate (do return .anchor (← anchorName))
    else if c == '!' then candidate tag
    else if (c == '|' || c == '>') && !flow then
      allowKey true
      dropCandidate
      push (← blockScalar (c == '>'))
    else if c == '\'' || c == '"' then candidate (quotedScalar c)
    else if startsPlain c after flow then candidate plainScalar
    else fail
    return true

/-- The tokens that are handed on before any that may still become a key. -/
def settled (s : State) : List Token :=
  let pending := s.candidates.filter fun c => c.2.required || !c.2.isStale s
  let count := (pending.map fun c => c.2.tokens).foldl min s.tokens.length
  s.tokens.reverse.take count

/-- Reads all tokens. They are handed on as they are read, so a fault comes behind those before it. -/
def all : Nat → State → List Token
  | 0, s => s.tokens.reverse
  | fuel + 1, s =>
    match next.run s with
    | .ok (true, s) => all fuel s
    | .ok (false, s) => s.tokens.reverse
    | .error e => settled s ++ [.fault e]

/-- Characters that may stand in a text. -/
def isAllowed (c : Char) : Bool :=
  let n := c.toNat
  n == 0x09 || n == 0x0a || n == 0x0d || (0x20 ≤ n && n ≤ 0x7e) || n == 0x85 ||
    (0xa0 ≤ n && n ≤ 0xd7ff) || (0xe000 ≤ n && n ≤ 0xfffd) || 0x10000 ≤ n

end Lexer

def tokens (cs : List Char) : List Token :=
  if !cs.all Lexer.isAllowed then [.fault .malformed]
  else
    let start : Lexer.State := { rest := cs }
    Lexer.all (2 * cs.length + 2) (if cs.head? == some '\ufeff' then Lexer.step start else start)

end SchemaWrappers.Yaml
