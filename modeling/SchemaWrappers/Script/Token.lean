import SchemaWrappers.Script.Name
import SchemaWrappers.Text.Character

/-! Script text cut into tokens for laying it out. Nothing is rejected: what fits no class is a
token of its own. -/
namespace SchemaWrappers.Script

inductive Class where
  | start
  | startExpr
  | endExpr
  | startBlock
  | endBlock
  | word
  | reserved
  | semicolon
  | string
  | equals
  | operator
  | comma
  | blockComment
  | comment
  | dot
  | unknown
  | eof
  deriving DecidableEq, Inhabited, Repr

/-- Class and text of a token. -/
structure Mark where
  cls : Class
  text : String
  deriving DecidableEq, Inhabited, Repr

/-- A switch given in a comment: layout is suspended, or taken up again. -/
inductive Directive where
  | suspend
  | resume
  | other
  deriving DecidableEq, Repr

/-- A token, the line breaks and the last blanks before it, the comments before it, and the index
of the bracket that it closes. -/
structure Token where
  mark : Mark
  newlines : Nat := 0
  blanks : List Char := []
  comments : List Token := []
  directive : Option Directive := none
  index : Nat := 0
  opened : Option Nat := none
  deriving Inhabited

namespace Token

def cls (t : Token) : Class := t.mark.cls
def text (t : Token) : String := t.mark.text

end Token

def lineStarters : List String :=
  ["continue", "try", "throw", "return", "var", "let", "const", "if", "switch", "case", "default",
    "for", "while", "break", "function", "import", "export"]

def reservedWords : List String :=
  lineStarters ++ ["do", "in", "of", "else", "get", "set", "new", "catch", "finally", "typeof",
    "yield", "async", "await", "from", "as", "class", "extends"]

/-- Operators at which a line may be broken. -/
def positionable : List String :=
  [">>>", "===", "!==", "&&=", "??=", "||=", "<<", "&&", ">=", "**", "!=", "==", "<=", ">>", "||",
    "??", "|>", "<", "/", "-", "+", ">", ":", "&", "%", "?", "^", "|", "*"]

def operators : List String :=
  [">>>=", "...", ">>=", "<<=", "===", ">>>", "!==", "**=", "&&=", "??=", "||=", "=>", "^=", "::",
    "/=", "<<", "<=", "==", "&&", "-=", ">=", ">>", "!=", "--", "+=", "**", "||", "??", "++", "%=",
    "&=", "*=", "|=", "|>", "=", "!", "?", ">", "<", ":", "/", "^", "-", "+", "*", "&", "%", "~",
    "|"]

namespace Lexer

def isNewline (c : Char) : Bool := c == '\n' || c == '\r' || c == '\u2028' || c == '\u2029'

def isSpace (c : Char) : Bool :=
  let n := c.toNat
  c == '\t' || c == ' ' || isNewline c || n == 0xa0 || n == 0x1680 || n == 0x180e ||
    (0x2000 ≤ n && n ≤ 0x200a) || n == 0x202f || n == 0x205f || n == 0x3000 || n == 0xfeff

/-- The stretches between line breaks; a carriage return and a line feed together make one. -/
def splitLines : List Char → List (List Char)
  | [] => [[]]
  | '\r' :: '\n' :: cs => [] :: splitLines cs
  | c :: cs =>
    if isNewline c then [] :: splitLines cs
    else
      match splitLines cs with
      | [] => [[c]]
      | l :: ls => (c :: l) :: ls

/-- The text with all line breaks made line feeds. -/
def unifyLines (cs : List Char) : List Char := ['\n'].intercalate (splitLines cs)

def isHex (c : Char) : Bool := c.isDigit || ('a' ≤ c && c ≤ 'f') || ('A' ≤ c && c ≤ 'F')

def escapeLength : List Char → Nat
  | '\\' :: 'u' :: '{' :: cs =>
    let ds := cs.takeWhile isHex
    if !ds.isEmpty && (cs.drop ds.length).head? == some '}' then ds.length + 4 else 0
  | '\\' :: 'u' :: cs =>
    if (cs.take 4).length == 4 && (cs.take 4).all isHex then 6 else 0
  | _ => 0

def nameRest : Nat → List Char → Nat
  | 0, _ => 0
  | _ + 1, [] => 0
  | fuel + 1, c :: cs =>
    if isNameRest c then nameRest fuel cs + 1
    else
      match escapeLength (c :: cs) with
      | 0 => 0
      | n => n + nameRest fuel ((c :: cs).drop n)

def nameLength (cs : List Char) : Nat :=
  match cs with
  | [] => 0
  | c :: rest =>
    if isNameStart c then nameRest rest.length rest + 1
    else
      match escapeLength cs with
      | 0 => 0
      | n => n + nameRest cs.length (cs.drop n)

def digitRun (p : Char → Bool) (cs : List Char) : Nat := (cs.takeWhile fun c => p c || c == '_').length

/-- The length of a number with a radix mark, such as `0x1f`; it may end in `n`. -/
def radixLength (cs : List Char) : Nat :=
  let body (p : Char → Bool) (cs : List Char) : Nat :=
    let n := digitRun p cs
    2 + n + if (cs.drop n).head? == some 'n' then 1 else 0
  match cs with
  | '0' :: x :: cs =>
    if x == 'x' || x == 'X' then body isHex cs
    else if x == 'o' || x == 'O' then body (fun c => '0' ≤ c && c ≤ '7') cs
    else if x == 'b' || x == 'B' then body (fun c => c == '0' || c == '1') cs
    else 0
  | _ => 0

def exponentLength (cs : List Char) : Nat :=
  match cs with
  | e :: cs =>
    if e == 'e' || e == 'E' then
      let (sign, ds) := match cs with
        | '+' :: ds => (1, ds)
        | '-' :: ds => (1, ds)
        | ds => (0, ds)
      match digitRun Text.isDecimalDigit ds with
      | 0 => 0
      | n => 1 + sign + n
    else 0
  | [] => 0

def numberLength (cs : List Char) : Nat :=
  match radixLength cs with
  | 0 =>
    match cs with
    | '.' :: d :: rest =>
      if Text.isDecimalDigit d then
        let n := 2 + digitRun Text.isDecimalDigit rest
        n + exponentLength (cs.drop n)
      else 0
    | d :: rest =>
      if Text.isDecimalDigit d then
        let n := 1 + digitRun Text.isDecimalDigit rest
        match cs.drop n with
        | 'n' :: _ => n + 1
        | '.' :: after =>
          let n := n + 1 + digitRun Text.isDecimalDigit after
          n + exponentLength (cs.drop n)
        | after => n + exponentLength after
      else 0
    | [] => 0
  | n => n

/-- What a string is read up to: its quote, or the end of a piece of code inside a template. -/
inductive Delimiter where
  | quote (q : Char)
  | template
  | piece

/-- The length of a string's body, up to but without its delimiter. In a template the pieces of
code are read along, templates inside them too. -/
def bodyLength : Nat → Delimiter → List Char → Nat
  | 0, _, cs => cs.length
  | _ + 1, _, [] => 0
  | fuel + 1, d, c :: cs =>
    let escape (cs : List Char) : Nat :=
      match cs with
      | [] => 0
      | '\r' :: '\n' :: _ => 2
      | _ => 1
    match d with
    | .quote q =>
      if c == q || isNewline c then 0
      else if c == '\\' then 1 + escape cs + bodyLength fuel d (cs.drop (escape cs))
      else 1 + bodyLength fuel d cs
    | .template =>
      if c == '`' then 0
      else if c == '\\' then 1 + escape cs + bodyLength fuel d (cs.drop (escape cs))
      else if c == '$' && cs.head? == some '{' then
        let inner := bodyLength fuel .piece (cs.drop 1)
        let closed := min 1 (cs.length - 1 - inner)
        2 + inner + closed + bodyLength fuel d (cs.drop (1 + inner + closed))
      else 1 + bodyLength fuel d cs
    | .piece =>
      if c == '}' then 0
      else if c == '\\' then 1 + escape cs + bodyLength fuel d (cs.drop (escape cs))
      else if c == '`' then
        let inner := bodyLength fuel .template cs
        let closed := min 1 (cs.length - inner)
        1 + inner + closed + bodyLength fuel d (cs.drop (inner + closed))
      else 1 + bodyLength fuel d cs

def stringLength (q : Char) (cs : List Char) : Nat :=
  let d := if q == '`' then Delimiter.template else .quote q
  let n := bodyLength (2 * cs.length + 2) d cs
  1 + n + if (cs.drop n).head? == some q then 1 else 0

/-- The length of a pattern's body, from behind its first slash to before its last. -/
def patternBody (escaped inClass : Bool) : List Char → Nat
  | [] => 0
  | c :: cs =>
    if isNewline c || (c == '/' && !escaped && !inClass) then 0
    else if escaped then 1 + patternBody false inClass cs
    else
      let inClass := if c == '[' then true else if c == ']' then false else inClass
      1 + patternBody (c == '\\') inClass cs

def patternLength (cs : List Char) : Nat :=
  let n := 1 + patternBody false false (cs.drop 1)
  match cs.drop n with
  | '/' :: rest => n + 1 + nameLength rest
  | _ => n

/-- The characters up to and with the first occurrence of `stop`, or all. -/
def through (stop : List Char) : List Char → Nat
  | [] => 0
  | c :: cs => if stop.isPrefixOf (c :: cs) then stop.length else 1 + through stop cs

def lineLength (cs : List Char) : Nat := (cs.takeWhile (!isNewline ·)).length

def throughLine (cs : List Char) : Nat :=
  let n := lineLength cs
  match cs.drop n with
  | '\r' :: '\n' :: _ => n + 2
  | _ :: _ => n + 1
  | [] => n

/-- The switches in a comment of the form `/* beautify name:value … */`. -/
def directives (comment : List Char) : Option (List (String × String)) :=
  let lead := "/* beautify".toList
  let tail := " */".toList
  if lead.isPrefixOf comment && tail.isSuffixOf comment &&
      lead.length + tail.length ≤ comment.length then
    let inside := (comment.drop lead.length).take (comment.length - lead.length - tail.length)
    let parts := (Text.pieces (· == ' ') inside).drop 1
    let isKey (cs : List Char) : Bool := !cs.isEmpty && cs.all fun c => c.isAlphanum || c == '_'
    let pair? (cs : List Char) : Option (String × String) :=
      match Text.pieces (· == ':') cs with
      | [k, v] => if isKey k && isKey v then some (String.ofList k, String.ofList v) else none
      | _ => none
    if inside.head? == some ' ' then parts.mapM pair? else none
  else none

def directiveOf (found : List (String × String)) : Directive :=
  match found.reverse.lookup "preserve" with
  | some "start" => .suspend
  | some "end" => .resume
  | _ => .other

/-- The mark that ends a stretch of text to be left alone. -/
def ignoreEnd : List Char := "/* beautify ignore:end */".toList

/-- A bracket that is still open: its index, its text, and the token before it. -/
structure Open where
  index : Nat
  text : String
  before : Mark

def closes (close opening : String) : Bool :=
  (close == "]" && opening == "[") || (close == ")" && opening == "(") ||
    (close == "\x7d" && opening == "\x7b")

def patternAfter : List Class :=
  [.comment, .startExpr, .startBlock, .start, .endBlock, .operator, .equals, .eof, .semicolon,
    .comma]

/-- What the cut of the next token depends on. `closed` is the token before the bracket that the
last token closed. -/
structure Context where
  first : Bool := true
  last : Mark := ⟨.start, ""⟩
  closed : Option Mark := none
  inHtmlComment : Bool := false

/-- Whether a slash begins a pattern; unknown after a closing parenthesis that closes nothing. -/
def allowsPattern (ctx : Context) : Option Bool :=
  if ctx.last.cls == .reserved &&
      ["return", "case", "throw", "else", "do", "typeof", "yield"].contains ctx.last.text then
    some true
  else if ctx.last.cls == .endExpr && ctx.last.text == ")" then
    match ctx.closed with
    | some b => some (b.cls == .reserved && ["if", "while", "for"].contains b.text)
    | none => none
  else some (patternAfter.contains ctx.last.cls)

/-- A token cut off the head: its class, its text, the characters it takes, its directive. -/
structure Cut where
  cls : Class
  text : List Char
  length : Nat
  directive : Option Directive := none

def plain (cls : Class) (cs : List Char) (n : Nat) : Cut := ⟨cls, cs.take n, n, none⟩

/-- Marks that are no script: the line that names an interpreter, includes, numbered references,
and comments of the enclosing page. -/
def foreign (ctx : Context) (cs : List Char) : Option Cut :=
  match cs with
  | '#' :: rest =>
    let stripped (n : Nat) : Cut := ⟨.unknown, Text.trimmed (cs.take n) ++ ['\n'], n, none⟩
    if ctx.first && rest.head? == some '!' then some (stripped (throughLine cs))
    else if "#include".toList.isPrefixOf cs then some (stripped (throughLine cs))
    else if rest.head?.any (·.isDigit) then
      let body := rest.takeWhile fun c => c != '#' && c != '='
      let n := 1 + body.length + min 1 (rest.length - body.length)
      let after := cs.drop n
      let ends := (cs.take n).getLast? != some '#' &&
        (['[', ']'].isPrefixOf after || ['{', '}'].isPrefixOf after)
      some (plain .word cs (if ends then n + 2 else n))
    else none
  | '<' :: _ =>
    if ctx.first && "<!--".toList.isPrefixOf cs then some (plain .comment cs (lineLength cs))
    else none
  | '-' :: _ =>
    if ctx.inHtmlComment && "-->".toList.isPrefixOf cs then some (plain .comment cs 3) else none
  | _ => none

def wordClass (last : Mark) (text : String) : Class :=
  let member := last.cls == .dot ||
    (last.cls == .reserved && (last.text == "set" || last.text == "get"))
  if !member && reservedWords.contains text then
    if (text == "in" || text == "of") && (last.cls == .word || last.cls == .string) then .operator
    else .reserved
  else .word

def single (cs : List Char) : Option Class :=
  match cs with
  | '(' :: _ => some .startExpr
  | '[' :: _ => some .startExpr
  | ')' :: _ => some .endExpr
  | ']' :: _ => some .endExpr
  | '{' :: _ => some .startBlock
  | '}' :: _ => some .endBlock
  | ';' :: _ => some .semicolon
  | ',' :: _ => some .comma
  | '.' :: d :: _ => if Text.isDecimalDigit d || d == '.' then none else some .dot
  | _ => none

def comment? (cs : List Char) : Option Cut :=
  match cs with
  | '/' :: '*' :: rest =>
    let n := 2 + through ['*', '/'] rest
    match directives (cs.take n) with
    | some found =>
      let n := if found.reverse.lookup "ignore" == some "start" then
          n + through ignoreEnd (cs.drop n) else n
      some ⟨.blockComment, unifyLines (cs.take n), n, some (directiveOf found)⟩
    | none => some ⟨.blockComment, unifyLines (cs.take n), n, none⟩
  | '/' :: '/' :: _ => some (plain .comment cs (lineLength cs))
  | _ => none

def operator? (cs : List Char) : Option Cut :=
  match cs with
  | '?' :: '.' :: rest =>
    if rest.head?.any Text.isDecimalDigit then some (plain .operator cs 1)
    else some (plain .dot cs 2)
  | _ =>
    match operators.find? (·.toList.isPrefixOf cs) with
    | some "=" => some (plain .equals cs 1)
    | some op => some (plain .operator cs op.length)
    | none => none

/-- The token at the head of a text that does not start with space; nothing when it cannot be
told. -/
def cut (ctx : Context) (cs : List Char) : Option Cut :=
  match cs with
  | [] => some ⟨.eof, [], 0, none⟩
  | c :: rest =>
    match foreign ctx cs with
    | some found => some found
    | none =>
      if c == '`' || c == '\'' || c == '"' then
        let n := stringLength c rest
        some ⟨.string, unifyLines (cs.take n), n, none⟩
      else if ['#', '{'].isPrefixOf cs then some (plain .startBlock cs 2)
      else
        match nameLength cs with
        | n + 1 =>
          let text := cs.take (n + 1)
          some ⟨wordClass ctx.last (String.ofList text), text, n + 1, none⟩
        | 0 =>
          match numberLength cs with
          | n + 1 => some (plain .word cs (n + 1))
          | 0 =>
            match single cs with
            | some cls => some (plain cls cs 1)
            | none =>
              match comment? cs with
              | some found => some found
              | none =>
                let other := (operator? cs).getD (plain .unknown cs 1)
                if c == '/' then do
                  if ← allowsPattern ctx then
                    return plain .string cs (patternLength cs)
                  else return other
                else some other

/-- The line breaks in a stretch of space, and the blanks after the last of them. -/
def space (cs : List Char) : Nat × List Char :=
  let lines := splitLines cs
  (lines.length - 1, lines.getLast?.getD [])

def isCommentClass (c : Class) : Bool := c == .comment || c == .blockComment || c == .unknown

/-- The open brackets after a token, and the bracket it closed. -/
def settle (index : Nat) (last mark : Script.Mark) (opens : List Open) : List Open × Option Open :=
  let (opens, closed) := match opens with
    | o :: outer =>
      if (mark.cls == Class.endBlock || mark.cls == Class.endExpr) && closes mark.text o.text then
        (outer, some o)
      else (opens, none)
    | [] => ([], none)
  if mark.cls == Class.startBlock || mark.cls == Class.startExpr then
    (⟨index, mark.text, last⟩ :: opens, closed)
  else (opens, closed)

/-- Whether a comment of the enclosing page is open after a token. -/
def htmlCommentAfter (before : Bool) (mark : Mark) : Bool :=
  if mark.cls != .comment then before
  else if "<!--".toList.isPrefixOf mark.text.toList then true
  else if mark.text == "-->" then false
  else before

/-- The tokens from a place on; comments are kept with the token that follows them. -/
def tokensFrom : Nat → Context → List Open → Nat → List Token → List Char → Option (List Token)
  | 0, _, _, _, _, _ => none
  | fuel + 1, ctx, opens, index, comments, cs =>
    let blank := cs.takeWhile isSpace
    let cs := cs.drop blank.length
    let (newlines, blanks) := space blank
    match cut ctx cs with
    | none => none
    | some c =>
      let mark : Mark := ⟨c.cls, String.ofList c.text⟩
      let token : Token := { mark, newlines, blanks, directive := c.directive, index }
      let rest := cs.drop c.length
      let inHtmlComment := htmlCommentAfter ctx.inHtmlComment mark
      if isCommentClass mark.cls then
        tokensFrom fuel { ctx with inHtmlComment } opens index (comments ++ [token]) rest
      else
        let (opens, closed) := settle index ctx.last mark opens
        let token := { token with comments, opened := closed.map (·.index) }
        if mark.cls == .eof then some [token]
        else
          let ctx := { first := false, last := mark, closed := closed.map (·.before), inHtmlComment }
          (tokensFrom fuel ctx opens (index + 1) [] rest).map (token :: ·)

end Lexer

def tokens? (cs : List Char) : Option (List Token) :=
  Lexer.tokensFrom (cs.length + 1) {} [] 0 [] cs

end SchemaWrappers.Script
