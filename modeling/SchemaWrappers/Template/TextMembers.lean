import SchemaWrappers.Template.Arguments
import SchemaWrappers.Text.Casing
import SchemaWrappers.Text.Numeral
import SchemaWrappers.Text.Printable

/-! The methods of texts. Those of mark-up give mark-up again and escape what they take up. -/
namespace SchemaWrappers.Template.Eval
open Text

def textArgument (v : Value) (complaint : String → String) : Eval (List Char) := do
  match v with
  | .text s _ => return s.toList
  | v => kind (complaint v.sortName)

def taken (safe : Bool) (v : Value) (complaint : String → String) : Eval (List Char) := do
  if safe then return (← escaped v).toList else textArgument v complaint

def mustBeText (sort : String) : String := s!"must be str, not {sort}"

/-- The stretch of a text from a start to an end, both of which may be counted from its end; there
is none if it starts behind the text. -/
def stretch? (cs : List Char) (bounds : List Value) : Eval (Option (Nat × List Char)) := do
  let n : Int := cs.length
  let bound (v : Option Value) (fallback : Int) : Eval Int := do
    match v with
    | none => return fallback
    | some v => return (← Eval.bound v).getD fallback
  let start ← bound bounds[0]? 0
  let stop ← bound bounds[1]? n
  let fix (i : Int) : Int := if i < 0 then max 0 (i + n) else i
  let (start, stop) := (fix start, min n (fix stop))
  if stop < start || n < start then return none
  else return some (start.toNat, (cs.drop start.toNat).take (stop - start).toNat)

/-- The arguments of a search: a part, and where the stretch to search starts and ends. -/
def searchArguments (name : String) (args : Arguments) : Eval (List Char × List Value) := do
  expectPlaces ("str." ++ name) args
  match args.places with
  | [] => kind s!"{name}() takes at least 1 argument (0 given)"
  | v :: bounds =>
    if 2 < bounds.length then kind s!"{name}() takes at most 3 arguments ({bounds.length + 1} given)"
    return (← textArgument v mustBeText, bounds)

def findIn (last : Bool) (cs part : List Char) (bounds : List Value) : Eval (Option Nat) := do
  match ← stretch? cs bounds with
  | none => return none
  | some (start, stretch) =>
    let cut := if last then cutAtLast? part stretch else cutAt? part stretch
    return cut.map fun c => start + c.1.length

/-- Whether a text starts or ends with one of several texts. -/
def touches (name : String) (cs : List Char) (args : Arguments) : Eval Bool := do
  expectPlaces ("str." ++ name) args
  let fits (stretch part : List Char) : Bool :=
    if name == "startswith" then part.isPrefixOf stretch else part.isSuffixOf stretch
  match args.places with
  | [] => kind s!"{name}() takes at least 1 argument (0 given)"
  | v :: bounds =>
    if 2 < bounds.length then kind s!"{name}() takes at most 3 arguments ({bounds.length + 1} given)"
    let some (_, stretch) ← stretch? cs bounds | return false
    match v with
    | .text s _ => return fits stretch s.toList
    | .tuple items =>
      return (← items.findM? fun item => do
        let part ← textArgument item fun sort =>
          s!"tuple for {name} must only contain str, not {sort}"
        return fits stretch part).isSome
    | v => kind s!"{name} first arg must be str or a tuple of str, not {v.sortName}"

/-- A separator and how often to cut at it, for a cut from the start or from the end. -/
def splitText (fromEnd : Bool) (cs : List Char) (args : Arguments) : Eval (List (List Char)) := do
  let name := if fromEnd then "rsplit" else "split"
  let given := args.places.length + args.names.length
  if 2 < given then kind s!"{name}() takes at most 2 arguments ({given} given)"
  for (n, _) in args.names do
    if n != "sep" && n != "maxsplit" then kind s!"'{n}' is an invalid keyword argument for {name}()"
  let argument (i : Nat) (n : String) : Option Value := (args.places[i]?).or (args.names.lookup n)
  let most ← match argument 1 "maxsplit" with
    | some v => index v
    | none => pure (-1)
  let most := if most < 0 then cs.length + 1 else most.toNat
  match (argument 0 "sep").getD .none with
  | .none => return if fromEnd then wordsAtMostLast most cs else wordsAtMost (cs.length + 1) most cs
  | .text "" _ => value "empty separator"
  | .text s _ => return if fromEnd then piecesAtLast s.toList most cs else piecesAt s.toList most cs
  | v => kind s!"must be str or None, not {v.sortName}"

/-- The characters that are taken off the ends of a text. -/
def stripText (name : String) (cs : List Char) (args : Arguments) : Eval (List Char) := do
  let vs ← expectBetween ("str." ++ name) name 0 1 args
  let isOff ← match vs.head?.getD .none with
    | .none => pure isBlank
    | .text s _ => pure fun c => s.toList.contains c
    | _ => kind s!"{name} arg must be None or str"
  let front := if name == "rstrip" then cs else cs.dropWhile isOff
  return if name == "lstrip" then front else (front.reverse.dropWhile isOff).reverse

/-- Width and filling character of a text that is brought to a width. -/
def padding (name : String) (safe : Bool) (args : Arguments) : Eval (Nat × Char) := do
  let vs ← expectBetween ("str." ++ name) name 1 2 args
  let width ← indexOr vs 0 0
  let fill ← match vs[1]? with
    | none => pure [' ']
    | some v => taken safe v fun sort => s!"The fill character must be a unicode character, not {sort}"
  match fill with
  | [c] => return (width.toNat, c)
  | _ => kind "The fill character must be exactly one character long"

def expandTabs (size : Nat) : Nat → List Char → List Char
  | _, [] => []
  | column, '\t' :: cs =>
    let n := if size == 0 then 0 else size - column % size
    List.replicate n ' ' ++ expandTabs size (column + n) cs
  | column, c :: cs =>
    c :: expandTabs size (if c == '\n' || c == '\r' then 0 else column + 1) cs

/-- Characters replaced by what a table has for their numbers. -/
def translateText (table : Value) (cs : List Char) : Eval (List Char) := do
  let found ← cs.mapM fun c => do
    match ← entry? table (.whole c.toNat) with
    | none => return [c]
    | some .none => return []
    | some (.text s _) => return s.toList
    | some v =>
      match v.whole? with
      | some n =>
        if n < 0 || 0x110000 ≤ n then value "character mapping must be in range(0x110000)"
        else if n.toNat.isValidChar then return [Char.ofNat n.toNat]
        else unfollowed
      | none => kind "character mapping must return integer, None or str"
  return found.flatten

def zeroFilled (width : Nat) (cs : List Char) : List Char :=
  let zeros := List.replicate (width - cs.length) '0'
  match cs with
  | c :: rest => if c == '-' || c == '+' then c :: zeros ++ rest else zeros ++ cs
  | [] => zeros

def joinTexts (safe : Bool) (separator : List Char) (items : List Value) : Eval (List Char) := do
  let texts ← items.zipIdx.mapM fun (v, i) => taken safe v fun sort =>
    s!"sequence item {i}: expected str instance, {sort} found"
  return separator.intercalate texts

/-- The texts that entities stand for, as far as they are in common use. -/
def entityNames : List (String × Char) :=
  [("amp", '&'), ("lt", '<'), ("gt", '>'), ("quot", '"'), ("apos", '\''), ("nbsp", '\xa0'),
    ("copy", '©'), ("reg", '®'), ("hellip", '…'), ("mdash", '—'), ("ndash", '–'), ("laquo", '«'),
    ("raquo", '»'), ("ldquo", '“'), ("rdquo", '”'), ("lsquo", '‘'), ("rsquo", '’'), ("bull", '•'),
    ("middot", '·'), ("times", '×'), ("deg", '°'), ("euro", '€'), ("trade", '™'), ("larr", '←'),
    ("rarr", '→'), ("uarr", '↑'), ("darr", '↓'), ("eacute", 'é'), ("egrave", 'è'), ("agrave", 'à'),
    ("uuml", 'ü'), ("ouml", 'ö'), ("auml", 'ä'), ("szlig", 'ß'), ("ccedil", 'ç'), ("ntilde", 'ñ')]

/-- The numbers from 0x80 to 0x9f name what an older encoding has there. -/
def olderCharacters : List Char :=
  "€\x81‚ƒ„…†‡ˆ‰Š‹Œ\x8dŽ\x8f\x90‘’“”•–—˜™š›œ\x9džŸ".toList

/-- What a number in an entity names: nothing if it is that of a control character or of no character. -/
def charactersOf (n : Nat) : List Char :=
  if n == 0 || !n.isValidChar then ['\ufffd']
  else if 0x80 ≤ n && n ≤ 0x9f then [(olderCharacters[n - 0x80]?).getD '\ufffd']
  else if n == 0x0b || n == 0x7f || (n < 0x20 && !([0x09, 0x0a, 0x0c, 0x0d].contains n)) then []
  else if (0xfdd0 ≤ n && n ≤ 0xfdef) || 0xfffe ≤ n % 0x10000 then []
  else [Char.ofNat n]

/-- What the entity behind an ampersand stands for, if it is one, and what is behind it. -/
inductive Entity where
  | named (text rest : List Char)
  | plain
  /-- It may be one of the many that are not listed. -/
  | unknown

def Entity.ofChars (cs : List Char) : Entity :=
  let numbered (isDigit : Char → Bool) (base : Nat) (cs : List Char) : Entity :=
    let ds := cs.takeWhile isDigit
    let rest := cs.drop ds.length
    let rest := if rest.head? == some ';' then rest.tail else rest
    if ds.isEmpty then plain
    else if base == 10 && Text.digitLimit < ds.length then unknown
    else named (charactersOf (Lexer.natOf base ds)) rest
  match cs with
  | '#' :: 'x' :: cs | '#' :: 'X' :: cs => numbered Lexer.isHexDigit 16 cs
  | '#' :: cs => numbered Char.isDigit 10 cs
  | cs =>
    let name := cs.takeWhile Char.isAlphanum
    match entityNames.lookup (String.ofList name), cs.drop name.length with
    | some c, ';' :: rest => named [c] rest
    | _, _ => if (cs.head?.any Char.isAlpha) then unknown else plain

def unescaped? : Nat → List Char → Option (List Char)
  | 0, cs => some cs
  | _, [] => some []
  | fuel + 1, '&' :: cs =>
    match Entity.ofChars cs with
    | .named text rest => (unescaped? fuel rest).map (text ++ ·)
    | .plain => (unescaped? fuel cs).map ('&' :: ·)
    | .unknown => none
  | fuel + 1, c :: cs => (unescaped? fuel cs).map (c :: ·)

def withoutEntities (cs : List Char) : Eval (List Char) := do
  match unescaped? cs.length cs with
  | some cs => return cs
  | none => unfollowed

def withoutSpans (opening closing : List Char) : Nat → List Char → List Char
  | 0, cs => cs
  | fuel + 1, cs =>
    match cutAt? opening cs with
    | none => cs
    | some (front, back) =>
      match cutAt? closing (opening ++ back) with
      | none => cs
      | some (_, rest) => withoutSpans opening closing fuel (front ++ rest)

/-- A text without comments, tags and runs of blanks, its entities resolved. -/
def stripTags (s : String) : Eval (List Char) :=
  let cs := s.toList
  let cs := withoutSpans "<!--".toList "-->".toList cs.length cs
  let cs := withoutSpans ['<'] ['>'] cs.length cs
  withoutEntities (collapsed cs)

def textPredicate (name : String) (cs : List Char) : Bool :=
  let s := String.ofList cs
  let all (p : Char → Bool) : Bool := !cs.isEmpty && cs.all p
  match name with
  | "isalnum" => all isLetterOrNumber
  | "isalpha" => all isLetter
  | "isascii" => cs.all fun c => c.toNat < 0x80
  | "isdecimal" => all isDecimalDigit
  | "isdigit" => all isDigitSign
  | "isidentifier" => isIdentifier cs
  | "islower" => allLower s
  | "isnumeric" => all isNumber
  | "isprintable" => cs.all isPrintable
  | "isspace" => all isBlank
  | "istitle" => isTitled s
  | _ => allUpper s

def textMember (s : String) (safe : Bool) (name : String) (args : Arguments) : Eval Value := do
  let cs := s.toList
  let owner := "str." ++ name
  let out (cs : List Char) : Eval Value := return .ofChars cs safe
  let outAll (css : List (List Char)) : Eval Value := newList (css.map (Value.ofChars · safe))
  let simple (f : String → String) : Eval Value := do
    expectNone owner args
    return .text (f s) safe
  match name with
  | "upper" => simple upper
  | "lower" => simple lower
  | "capitalize" => simple capitalize
  | "title" => simple titled
  | "swapcase" => simple swapCase
  | "casefold" => simple fold
  | "strip" | "lstrip" | "rstrip" => out (← stripText name cs args)
  | "split" => outAll (← splitText false cs args)
  | "rsplit" => outAll (← splitText true cs args)
  | "splitlines" =>
    let given := args.places.length + args.names.length
    if 1 < given then kind s!"splitlines() takes at most 1 argument ({given} given)"
    let keep ← holds ((args.places.head?).or (args.names.lookup "keepends") |>.getD (.truth false))
    outAll (linesOf keep [] cs)
  | "partition" | "rpartition" =>
    let part ← textArgument (← expectOne owner args) mustBeText
    if part.isEmpty then value "empty separator"
    let cut := if name == "partition" then cutAt? part cs else cutAtLast? part cs
    let three : List (List Char) := match cut with
      | some (front, back) => [front, part, back]
      | none => if name == "partition" then [cs, [], []] else [[], [], cs]
    return .tuple (three.map (Value.ofChars · safe))
  | "replace" =>
    let vs ← expectBetween owner "replace" 2 3 args
    let complaint (i : Nat) (sort : String) : String :=
      s!"replace() argument {i} must be str, not {sort}"
    let old ← textArgument (vs[0]?.getD .none) (complaint 1)
    let new ← taken safe (vs[1]?.getD .none) (complaint 2)
    let n ← indexOr vs 2 (-1)
    out (replaced old new (if n < 0 then cs.length + 1 else n.toNat) cs)
  | "join" =>
    let v ← expectOne owner args
    let items ← try itemsOf v
      catch
        | .misuse .kind _ => kind "can only join an iterable"
        | e => throw e
    out (← joinTexts safe cs items)
  | "startswith" | "endswith" => return .truth (← touches name cs args)
  | "find" | "rfind" =>
    let (part, bounds) ← searchArguments name args
    return .whole (((← findIn (name == "rfind") cs part bounds).map Int.ofNat).getD (-1))
  | "index" | "rindex" =>
    let (part, bounds) ← searchArguments name args
    match ← findIn (name == "rindex") cs part bounds with
    | some i => return .whole i
    | none => value "substring not found"
  | "count" =>
    let (part, bounds) ← searchArguments name args
    match ← stretch? cs bounds with
    | some (_, stretch) => return .whole (occurrences part stretch)
    | none => return .whole 0
  | "center" =>
    let (width, fill) ← padding name safe args
    out (centered fill width cs)
  | "ljust" =>
    let (width, fill) ← padding name safe args
    out (cs ++ List.replicate (width - cs.length) fill)
  | "rjust" =>
    let (width, fill) ← padding name safe args
    out (List.replicate (width - cs.length) fill ++ cs)
  | "zfill" => out (zeroFilled (← index (← expectOne owner args)).toNat cs)
  | "removeprefix" =>
    let part ← textArgument (← expectOne owner args) fun sort =>
      s!"removeprefix() argument must be str, not {sort}"
    out (if part.isPrefixOf cs then cs.drop part.length else cs)
  | "removesuffix" =>
    let part ← textArgument (← expectOne owner args) fun sort =>
      s!"removesuffix() argument must be str, not {sort}"
    out (if part.isSuffixOf cs then cs.take (cs.length - part.length) else cs)
  | "expandtabs" =>
    let size ← match (args.places.head?).or (args.names.lookup "tabsize") with
      | some v => index v
      | none => pure 8
    out (expandTabs size.toNat 0 cs)
  | "translate" => out (← translateText (← expectOne owner args) cs)
  | "maketrans" =>
    let vs ← expectBetween owner name 1 3 args
    let number (c : Char) : Value := .whole c.toNat
    match vs with
    | [.table n] =>
      let es ← (← entries n).mapM fun (k, v) => match k with
        | .text t _ => match t.toList with
          | [c] => pure (number c, v)
          | _ => value "string keys in translate table must be of length 1"
        | k => pure (k, v)
      return .table (← addCell (.table es))
    | .text a _ :: .text b _ :: more =>
      if a.length != b.length then
        value "the first two maketrans arguments must have equal length"
      let dropped := match more with
        | [.text c _] => c.toList.map fun c => (number c, Value.none)
        | _ => []
      let pairs := (a.toList.zip b.toList).map fun (x, y) => (number x, number y)
      let es ← (pairs ++ dropped).foldlM (fun es (p : Value × Value) => withEntry es p.1 p.2) []
      return .table (← addCell (.table es))
    | _ => kind "if you give only one argument to maketrans it must be a dict"
  | "format" => braces s safe args
  | "format_map" =>
    match ← expectOne owner args with
    | .table n =>
      let names ← (← entries n).filterMapM fun (k, v) => match k with
        | .text t _ => pure (some (t, v))
        | _ => pure none
      braces s safe { names }
    | v => kind s!"'{v.sortName}' object is not a mapping"
  | "encode" => kind "'bytes' object has no text"
  | "__html__" => return .text s true
  | "unescape" => return .ofChars (← withoutEntities cs) false
  | "striptags" => return .ofChars (← stripTags s) false
  | "escape" =>
    return .text (← escaped (args.places.head?.getD .none)) true
  | name =>
    expectNone owner args
    return .truth (textPredicate name cs)

end SchemaWrappers.Template.Eval
