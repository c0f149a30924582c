import SchemaWrappers.Template.Fault
import SchemaWrappers.Text.CharacterName
import SchemaWrappers.Text.Identifier

/-! Cutting a template into tokens. Guillemets enclose what is not plain text: `« »` an output,
`«% %»` a tag, and `«# #»` a comment. -/
namespace SchemaWrappers.Template

inductive Token where
  | data (text : String)
  | outputStart
  | outputEnd
  | tagStart
  | tagEnd
  | name (s : String)
  | text (s : String)
  | whole (n : Nat)
  | decimal (x : Float)
  | mark (s : String)
  /-- What is no token; nothing is read behind it. -/
  | bad (f : Fault)
  deriving Repr

/-- A token and the line that it starts on. -/
structure Lexeme where
  token : Token
  line : Nat

def Token.label : Token → String
  | data _ => "template data / text"
  | outputStart => "begin of print statement"
  | outputEnd => "end of print statement"
  | tagStart => "begin of statement block"
  | tagEnd => "end of statement block"
  | name s | mark s => s
  | text _ => "string"
  | whole _ => "integer"
  | decimal _ => "float"
  | bad _ => "end of template"

namespace Lexer
open Text

def closing? (mark : Option Char) (cs : List Char) : Option (List Char) :=
  match mark, cs with
  | none, '»' :: rest => some rest
  | some m, c :: '»' :: rest => if c == m then some rest else none
  | _, _ => none

def skipBlank (cs : List Char) : List Char × Bool :=
  (cs.dropWhile isBlank, (cs.takeWhile isBlank).getLast? == some '\n')

/-- The text behind the end of a tag, an output or a comment, and whether a line ended with it. A
minus takes the blanks behind along; a line break behind a tag or a comment goes with it unless
there is a plus. -/
def close? (mark : Option Char) (cs : List Char) : Option (List Char × Bool) :=
  match cs with
  | '-' :: cs => (closing? mark cs).map skipBlank
  | '+' :: cs => if mark.isSome then (closing? mark cs).map (·, false) else none
  | cs => (closing? mark cs).map fun rest =>
    match mark, rest with
    | some _, '\n' :: rest => (rest, true)
    | _, rest => (rest, false)

/-- A sign that says what becomes of the blanks before. -/
def sign (cs : List Char) : Option Char × List Char :=
  match cs with
  | '-' :: cs => (some '-', cs)
  | '+' :: cs => (some '+', cs)
  | cs => (none, cs)

def word? (w : String) (cs : List Char) : Option (List Char) :=
  let cs := cs.dropWhile isBlank
  if w.toList.isPrefixOf cs then some ((cs.drop w.length).dropWhile isBlank) else none

/-- Plain text before a tag, an output or a comment. A minus takes the blanks off its end; blanks
alone on the line of a tag or a comment go unless there is a plus. -/
def strip (sign : Option Char) (output lineStart : Bool) (text : List Char) : List Char :=
  let back := text.reverse
  match sign with
  | some '-' => (back.dropWhile isBlank).reverse
  | some _ => text
  | none =>
    let line := back.takeWhile (· != '\n')
    let before := back.dropWhile (· != '\n')
    if !output && (!before.isEmpty || lineStart) && line.all isBlank then before.reverse else text

def commentEnd? : List Char → Option (List Char × Bool)
  | [] => none
  | c :: cs => (close? (some '#') (c :: cs)).or (commentEnd? cs)

/-- The start of a stretch that is taken as it stands, behind `«%`. -/
def rawStart? (cs : List Char) : Option (Option Char × List Char × Bool) := do
  let (s, cs) := sign cs
  match ← word? "raw" cs with
  | '-' :: cs => return (s, skipBlank (← closing? (some '%') cs))
  | cs => return (s, ← closing? (some '%') cs, false)

/-- The end of such a stretch: the text up to it, its sign, and the text behind it. -/
def rawEnd? : List Char → Option (List Char × Option Char × List Char × Bool)
  | [] => none
  | c :: cs =>
    let found := do
      let '«' := c | none
      let '%' :: rest := cs | none
      let (s, rest) := sign rest
      return ([], s, ← close? (some '%') (← word? "endraw" rest))
    found.or ((rawEnd? cs).map fun (text, more) => (c :: text, more))

def digitRun (isDigit : Char → Bool) : List Char → List Char × List Char
  | '_' :: c :: cs =>
    if isDigit c then
      let (ds, rest) := digitRun isDigit cs
      (c :: ds, rest)
    else ([], '_' :: c :: cs)
  | c :: cs =>
    if isDigit c then
      let (ds, rest) := digitRun isDigit cs
      (c :: ds, rest)
    else ([], c :: cs)
  | [] => ([], [])

def digits (cs : List Char) : List Char × List Char :=
  if cs.head? == some '_' then ([], cs) else digitRun isDecimalDigit cs

def digitValue (c : Char) : Nat :=
  let c := plainDigit c
  if c.isDigit then c.toNat - '0'.toNat else c.toLower.toNat - 'a'.toNat + 10

def natOf (base : Nat) (ds : List Char) : Nat := ds.foldl (fun n c => n * base + digitValue c) 0

def isHexDigit (c : Char) : Bool := c.isDigit || ('a' ≤ c.toLower && c.toLower ≤ 'f')

def hexText (width n : Nat) : String := String.ofList (hexDigits width n)

/-- A number with a fraction or an exponent; only ASCII digits make one. -/
def decimalOf (front fraction : List Char) (power : Option (List Char × Int)) : Token :=
  match (front ++ fraction).find? fun c => !c.isDigit with
  | some c =>
    .bad (.misuse .form
      s!"invalid character '{c}' (U+{(hexText 4 c.toNat).toUpper}) (<unknown>, line 1)")
  | none =>
    if (power.any fun p => p.1.any fun c => !c.isDigit) then
      .bad (.misuse .form "invalid decimal literal (<unknown>, line 1)")
    else
      let all := front ++ fraction
      .decimal (Decimal.nearest false (natOf 10 all) all.length
        ((power.map (·.2)).getD 0 - fraction.length))

def decimal? (cs : List Char) : Option (Token × List Char) :=
  let (front, rest) := digits cs
  if front.isEmpty then none
  else
    let (fraction, rest) := match rest with
      | '.' :: more => match digits more with
        | ([], _) => ([], rest)
        | found => found
      | _ => ([], rest)
    let power : Option (List Char × Int × List Char) := match rest with
      | e :: more =>
        let (negative, more) := signed more
        match e.toLower == 'e', digits more with
        | true, (d :: ds, rest) =>
          let n : Int := natOf 10 (d :: ds)
          some (d :: ds, if negative then -n else n, rest)
        | _, _ => none
      | [] => none
    match power with
    | some (ds, n, rest) => some (decimalOf front fraction (some (ds, n)), rest)
    | none => if fraction.isEmpty then none else some (decimalOf front fraction none, rest)

/-- A whole number; a letter behind a nought names its base. -/
def whole? (cs : List Char) : Option (Token × List Char) :=
  let inBase (base : Nat) (isDigit : Char → Bool) (cs : List Char) : Option (Token × List Char) :=
    match digitRun isDigit cs with
    | ([], _) => none
    | (ds, rest) =>
      if base == 10 && digitLimit < ds.length then
        some (.bad (.tooLong (some ds.length)), rest)
      else some (.whole (natOf base ds), rest)
  match cs with
  | '0' :: more =>
    let zeros := inBase 10 (· == '0') cs
    let based := match more with
      | b :: ds => match b.toLower with
        | 'b' => inBase 2 (fun c => c == '0' || c == '1') ds
        | 'o' => inBase 8 (fun c => '0' ≤ c && c ≤ '7') ds
        | 'x' => inBase 16 (fun c => isHexDigit c || isDecimalDigit c) ds
        | _ => none
      | [] => none
    based.or zeros
  | c :: _ => if c.isDigit then inBase 10 isDecimalDigit cs else none
  | [] => none

def quoted? (quote : Char) : List Char → Option (List Char × List Char)
  | [] => none
  | '\\' :: c :: cs => (quoted? quote cs).map fun (body, rest) => ('\\' :: c :: body, rest)
  | c :: cs =>
    if c == quote then some ([], cs)
    else (quoted? quote cs).map fun (body, rest) => (c :: body, rest)

def escapes : List (Char × Char) :=
  [('\\', '\\'), ('\'', '\''), ('"', '"'), ('a', '\x07'), ('b', '\x08'), ('f', '\x0c'),
    ('n', '\n'), ('r', '\r'), ('t', '\t'), ('v', '\x0b')]

/-- How many digits there are behind a letter that stands for a code point. -/
def codeLength (c : Char) : Option Nat := [('x', 2), ('u', 4), ('U', 8)].lookup c

def escaped (c : Char) : List Char :=
  let n := c.toNat
  if n < 0x80 then [c]
  else if n < 0x100 then '\\' :: 'x' :: hexDigits 2 n
  else if n < 0x10000 then '\\' :: 'u' :: hexDigits 4 n
  else '\\' :: 'U' :: hexDigits 8 n

/-- The text that stands between quotes, its escapes resolved. What comes of half of a surrogate pair is
not followed. -/
def unescape : Nat → List Char → Except Fault (List Char)
  | 0, _ => .error (.template "too long")
  | _, [] => .ok []
  | _, ['\\'] => .error (.template "\\ at end of string")
  | fuel + 1, '\\' :: c :: cs =>
    if c == '\n' then unescape fuel cs
    else
      match escapes.lookup c, codeLength c with
      | some r, _ => (unescape fuel cs).map (r :: ·)
      | none, some n =>
        let ds := (cs.take n).takeWhile isHexDigit
        let code := natOf 16 ds
        let form := String.ofList (c :: List.replicate n 'X')
        if ds.length != n then .error (.template s!"truncated \\{form} escape")
        else if 0x10ffff < code then .error (.template "illegal Unicode character")
        else (unescape fuel (cs.drop n)).bind fun rest =>
          if code.isValidChar then .ok (Char.ofNat code :: rest) else .error .unfollowed
      | none, none =>
        let isOctal (c : Char) : Bool := '0' ≤ c && c ≤ '7'
        if isOctal c then
          let ds := c :: (cs.take 2).takeWhile isOctal
          (unescape fuel (cs.drop (ds.length - 1))).map (Char.ofNat (natOf 8 ds) :: ·)
        else if c == 'N' then
          match cs with
          | '\x7b' :: more =>
            let name := more.takeWhile (· != '\x7d')
            if name.isEmpty || name.length == more.length then
              .error (.template "malformed \\N character escape")
            else
              match characterNamed? (String.ofList name) with
              | some r => (unescape fuel (more.drop (name.length + 1))).map (r :: ·)
              | none => .error (.template "unknown Unicode character name")
          | _ => .error (.template "malformed \\N character escape")
        else (unescape fuel cs).map ('\\' :: c :: ·)
  | fuel + 1, c :: cs => (unescape fuel cs).map (c :: ·)

def string? (cs : List Char) : Option (Token × List Char) :=
  match cs with
  | q :: cs =>
    if q == '\'' || q == '"' then do
      let (body, rest) ← quoted? q cs
      let body := body.flatMap escaped
      match unescape (body.length + 1) body with
      | .ok text => return (.text (String.ofList text), rest)
      | .error f => return (.bad f, rest)
    else none
  | [] => none

def name? (cs : List Char) : Option (Token × List Char) :=
  match cs.takeWhile isNamePart with
  | [] => none
  | n =>
    let t := if isIdentifier n then .name (String.ofList n)
      else .bad (.template "Invalid character in identifier")
    some (t, cs.drop n.length)

def marks : List String :=
  ["//", "**", "==", "!=", ">=", "<=", "+", "-", "/", "*", "%", "~", "[", "]", "(", ")", "\x7b",
    "\x7d", ">", "<", "=", ".", ":", "|", ",", ";"]

def mark? (cs : List Char) : Option (Token × List Char) :=
  (marks.find? fun m => m.toList.isPrefixOf cs).map fun m => (.mark m, cs.drop m.length)

/-- A token of a tag or an output; a number behind a full stop has no fraction. -/
def token? (before : Char) (cs : List Char) : Option (Token × List Char) :=
  (if before == '.' then none else decimal? cs).or
    ((whole? cs).or ((name? cs).or ((string? cs).or (mark? cs))))

def brackets : List (String × String) := [("(", ")"), ("[", "]"), ("\x7b", "\x7d")]

def balance (opened : List String) (t : Token) : Except String (List String) :=
  match t with
  | .mark m =>
    match brackets.lookup m with
    | some closer => .ok (closer :: opened)
    | none =>
      if brackets.any (·.2 == m) then
        match opened with
        | o :: opened =>
          if o == m then .ok opened else .error s!"unexpected '{m}', expected '{o}'"
        | [] => .error s!"unexpected '{m}'"
      else .ok opened
  | _ => .ok opened

def lineAfter (line : Nat) (cs rest : List Char) : Nat :=
  line + (cs.take (cs.length - rest.length)).count '\n'

/-- Tokens, and what is behind them: the text, and whether a line starts there. -/
abbrev Lexed := List Lexeme × List Char × Bool

/-- The tokens of a tag or an output up to its end; `size` is the length of the whole template. -/
def inside (isTag : Bool) (size : Nat) : Nat → List String → Char → Nat → List Char → Lexed
  | 0, _, _, _, _ => ([], [], false)
  | _, _, _, _, [] => ([], [], false)
  | fuel + 1, opened, before, line, c :: cs =>
    let whole := c :: cs
    let bad (message : String) : Lexed := ([⟨.bad (.template message), line⟩], [], false)
    match if opened.isEmpty then close? (if isTag then some '%' else none) whole else none with
    | some (rest, lineStart) =>
      ([⟨if isTag then .tagEnd else .outputEnd, line⟩], rest, lineStart)
    | none =>
      if isBlank c then inside isTag size fuel opened c (lineAfter line whole cs) cs
      else
        match token? before whole with
        | none => bad s!"unexpected char {quote c.toString} at {size - whole.length}"
        | some (.bad f, _) => ([⟨.bad f, line⟩], [], false)
        | some (t, rest) =>
          match balance opened t with
          | .error message => bad message
          | .ok opened =>
            let last := (whole.take (whole.length - rest.length)).getLast?.getD c
            let (more, rest) := inside isTag size fuel opened last (lineAfter line whole rest) rest
            (⟨t, line⟩ :: more, rest)

def dataToken (text : List Char) (line : Nat) : List Lexeme :=
  if text.isEmpty then [] else [⟨.data (String.ofList text), line⟩]

/-- The tokens from a place between tags, outputs and comments on. -/
def outside (size : Nat) : Nat → Bool → Nat → List Char → List Lexeme
  | 0, _, _, _ => []
  | fuel + 1, lineStart, line, cs =>
    let text := cs.takeWhile (· != '«')
    let here := line + text.count '\n'
    let goOn (rest : List Char × Bool) : List Lexeme :=
      outside size fuel rest.2 (lineAfter line cs rest.1) rest.1
    let bad (message : String) : List Lexeme := [⟨.bad (.template message), here⟩]
    let within (isTag : Bool) (start : Token) (inner : List Char) : List Lexeme :=
      let (s, inner) := sign inner
      let (ts, rest) := inside isTag size (inner.length + 1) [] ' ' here inner
      dataToken (strip s (!isTag) lineStart text) line ++ ⟨start, here⟩ :: ts ++ goOn rest
    match cs.dropWhile (· != '«') with
    | [] => dataToken text line
    | _ :: '#' :: inner =>
      let (s, inner) := sign inner
      let front := dataToken (strip s false lineStart text) line
      if inner.isEmpty then front
      else
        match commentEnd? inner with
        | some rest => front ++ goOn rest
        | none => front ++ bad "Missing end of comment tag"
    | _ :: '%' :: inner =>
      match rawStart? inner with
      | some (s, inner, lineStart') =>
        let front := dataToken (strip s false lineStart text) line
        if inner.isEmpty then front
        else
          match rawEnd? inner with
          | some (raw, s, rest) => front ++ dataToken (strip s false lineStart' raw) here ++ goOn rest
          | none => front ++ bad "Missing end of raw directive"
      | none => within true .tagStart inner
    | _ :: inner => within false .outputStart inner

end Lexer

/-- The tokens of a template whose line breaks are line feeds. -/
def tokens (cs : List Char) : List Lexeme := Lexer.outside cs.length (cs.length + 1) true 1 cs

end SchemaWrappers.Template
