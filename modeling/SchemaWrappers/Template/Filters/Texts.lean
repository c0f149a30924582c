import SchemaWrappers.Template.Members
import SchemaWrappers.Text.Wrap

namespace SchemaWrappers.Template.Filters
open Text Eval Filtering

def viaMember (name : String) (v : Value) (places : List Value) : Eval Value := do
  let (s, safe) ← softText v
  textMember s safe name { places }

/-- Words with a capital each; they begin behind blanks, hyphens and opening brackets. -/
def titleWords (s : String) : String :=
  let begins (c : Char) : Bool := isBlank c || ['-', '(', '\x7b', '[', '<'].contains c
  let rec go : Nat → List Char → List Char
    | 0, cs => cs
    | _, [] => []
    | fuel + 1, c :: cs =>
      let p := begins c
      let run := cs.takeWhile fun d => begins d == p
      upperChar c ++ lowerFrom false run ++ go fuel (cs.drop run.length)
  String.ofList (go (s.length + 1) s.toList)

/-- A text with a margin before its lines, the first one and blank ones only if asked for. -/
def indented (margin : List Char) (first blank : Bool) (s : String) : List Char :=
  let ls := lines (s.toList ++ ['\n'])
  let body :=
    if blank then ('\n' :: margin).intercalate ls
    else
      match ls with
      | [] => []
      | l :: ls => l ++ ls.flatMap fun l => '\n' :: (if l.isEmpty then [] else margin ++ l)
  if first then margin ++ body else body

def indent (v width : Value) (first blank : Bool) : Eval Value := do
  let (s, safe) ← match v with
    | .text s safe => pure (s, safe)
    | .absent _ message => absent message
    | v => kind s!"unsupported operand type(s) for +=: '{v.sortName}' and 'str'"
  let margin ← match width with
    | .text m _ => pure (if safe then escapedText m else m).toList
    | width => do
      match ← multiplySequence (.plain " ") width with
      | .text m _ => pure m.toList
      | _ => pure []
  return .ofChars (indented margin first blank s) safe

/-- A text cut to a length, at a blank unless words may be cut; the mark of the cut is counted. -/
def truncate (v length kills mark leeway : Value) : Eval Value := do
  let length ← index length
  let leeway ← match leeway with
    | .none => pure 5
    | leeway => index leeway
  let mark ← textOf mark
  if length < mark.length then
    throw (.misuse .assertion s!"expected length >= {mark.length}, got {length}")
  if leeway < 0 then throw (.misuse .assertion s!"expected leeway >= 0, got {leeway}")
  if (← Eval.length v) ≤ length + leeway then return v
  match v with
  | .text s safe =>
    let kept := s.toList.take (length - mark.length).toNat
    let kept ← if ← holds kills then pure kept
      else pure (match cutAtLast? [' '] kept with
        | some (front, _) => front
        | none => kept)
    return .ofChars (kept ++ mark.toList) safe
  | v => kind s!"'{v.sortName}' object is not subscriptable"

/-- The lines of a text broken so that they are not longer than a width. -/
def wrap (v width cuts mark hyphens : Value) : Eval Value := do
  let s ← match v with
    | .text s _ => pure s
    | .absent _ message => absent message
    | v => throw (.misuse .field s!"'{v.sortName}' object has no attribute 'splitlines'")
  let width ← index width
  let mark ← match mark with
    | .none => pure "\n"
    | mark => textOf mark
  let ls := lines s.toList
  if width ≤ 0 && !ls.isEmpty then value s!"invalid width {width} (must be > 0)"
  let (cuts, hyphens) := (← holds cuts, ← holds hyphens)
  return .ofChars (mark.toList.intercalate
    (ls.map fun l => mark.toList.intercalate (wrapped width.toNat cuts hyphens l))) false

def wordCount (s : String) : Nat := ((pieces (!isWord ·) s.toList).filter (· ≠ [])).length

def hexByte (b : UInt8) : List Char := '%' :: (hexDigits 2 b.toNat).map Char.toUpper

def addressText (query : Bool) (s : String) : List Char :=
  (Utf8.encode s.toList).flatMap fun b =>
    let c := Char.ofNat b.toNat
    if c.isAlphanum || ['_', '.', '-', '~'].contains c || (!query && c == '/') then [c]
    else if query && c == ' ' then ['+']
    else hexByte b

def addressPair (v : Value) : Eval (List Char) := do
  match ← unpack 2 v with
  | [k, w] => return addressText true (← textOf k) ++ '=' :: addressText true (← textOf w)
  | _ => return []

def address (v : Value) : Eval Value := do
  let single : Eval Value := return .ofChars (addressText false (← textOf v)) false
  match v with
  | .text .. => single
  | v =>
    if ← isIterable v then
      let items ← match v with
        | .table n => pure ((← entries n).map fun e => Value.tuple [e.1, e.2])
        | v => itemsOf v
      return .ofChars (['&'].intercalate (← items.mapM addressPair)) false
    else single

def attributes (context : Nat) (v spaced : Value) : Eval Value := do
  let es ← match v with
    | .table n => entries n
    | .absent _ message => absent message
    | v => throw (.misuse .field s!"'{v.sortName}' object has no attribute 'items'")
  let texts ← es.filterMapM fun (k, w) => do
    match w with
    | .none | .absent .. => return none
    | w =>
      match k with
      | .text name _ =>
        if name.toList.any fun c => ['/', '>', '=', ' ', '\t', '\n', '\r', '\x0b', '\x0c'].contains c then
          let shown ← shown k
          value s!"Invalid character in attribute name: {shown}"
        return some ((← escaped k) ++ "=\"" ++ (← escaped w) ++ "\"")
      | k => kind s!"expected string or bytes-like object, got '{k.sortName}'"
  let s := " ".intercalate texts
  let s := if !s.isEmpty && (← holds spaced) then " " ++ s else s
  return .text s (← escapes context)

def replace (context : Nat) (v old new count : Value) : Eval Value := do
  let count := match count with
    | .none => Value.whole (-1)
    | count => count
  if ← escapes context then
    let mark := isSafe old || (isSafe new && !isSafe v)
    let v ← if mark then pure (Value.text (← escaped v) true) else pure v
    let (o, s) ← softText old
    let (n, t) ← softText new
    viaMember "replace" v [.text o s, .text n t, count]
  else
    textMember (← textOf v) false "replace"
      { places := [.plain (← textOf old), .plain (← textOf new), count] }

/-- The beginning of a text that leads to another place, as far as such texts are recognized. -/
def isLink (cs : List Char) : Bool :=
  let host (cs : List Char) : Bool :=
    let name := cs.takeWhile fun c => isWord c || c == '-' || c == '%' || c == '.'
    let rest := cs.drop name.length
    let last := (name.reverse.takeWhile (· != '.')).reverse
    let port := match rest with
      | ':' :: more => more.drop (more.takeWhile Char.isDigit).length
      | more => more
    2 ≤ last.length && last.all Char.isAlpha &&
      (match port with
        | [] => true
        | c :: _ => c == '/' || c == '?' || c == '#')
  let s := String.ofList cs
  if s.startsWith "https://" then host (cs.drop 8)
  else if s.startsWith "http://" then host (cs.drop 7)
  else if s.startsWith "www." then host (cs.drop 4)
  else
    let name := cs.takeWhile fun c => isWord c || c == '-' || c == '%' || c == '.'
    let last := String.ofList (name.reverse.takeWhile (· != '.')).reverse
    name.contains '.' && ["com", "net", "int", "edu", "gov", "org", "info", "mil"].contains last &&
      host cs

def linked (limit : Option Nat) (marks : String) (cs : List Char) : List Char :=
  let head := cs.takeWhile fun c => c == '('
  let middle := cs.drop head.length
  let tail := (middle.reverse.takeWhile fun c => [')', '.', ',', '\n'].contains c).reverse
  let middle := middle.take (middle.length - tail.length)
  let shown := match limit with
    | some n => if n < middle.length then middle.take n ++ "...".toList else middle
    | none => middle
  let s := String.ofList middle
  let middle :=
    if isLink middle then
      let address := if s.startsWith "http://" || s.startsWith "https://" then s else "https://" ++ s
      s!"<a href=\"{address}\"{marks}>".toList ++ shown ++ "</a>".toList
    else middle
  head ++ middle ++ tail

def links (context : Nat) (v limit nofollow target rel : Value) : Eval Value := do
  let s ← escaped v
  let limit ← match limit with
    | .none => pure none
    | limit => do pure (some (← index limit).toNat)
  let given ← match rel with
    | .none => pure []
    | rel => do pure ((words (← textOf rel).toList).map String.ofList)
  let rels := given ++ (if ← holds nofollow then ["nofollow"] else []) ++ ["noopener"]
  let rels := (rels.eraseDups.mergeSort fun a b => a ≤ b)
  let target ← match target with
    | .none => pure ""
    | target => do pure (" target=\"" ++ (← escaped target) ++ "\"")
  let marks := " rel=\"" ++ escapedText (" ".intercalate rels) ++ "\"" ++ target
  let rec go : Nat → List Char → List Char
    | 0, cs => cs
    | _, [] => []
    | fuel + 1, c :: cs =>
      let blank := isBlank c
      let run := c :: cs.takeWhile fun d => isBlank d == blank
      (if blank then run else linked limit marks run) ++ go fuel ((c :: cs).drop run.length)
  return .ofChars (go (s.length + 1) s.toList) (← escapes context)

def texts : List (String × Filtering) :=
  let case (owner : String) (f : String → String) : Filtering :=
    { owner, parameters := [required "s"]
      run := fun _ v => do
        let (s, safe) ← softText (v 0)
        return .text (f s) safe }
  let escape : Filtering :=
    { owner := "escape", parameters := [required "s"]
      run := fun _ v => return .text (← escaped (v 0)) true }
  [("upper", case "do_upper" upper), ("lower", case "do_lower" lower),
    ("capitalize", case "do_capitalize" capitalize), ("title", case "do_title" titleWords),
    ("e", escape), ("escape", escape),
    ("forceescape", { owner := "do_forceescape", run := fun _ v => do
      return .text (escapedText (← textOf (v 0))) true }),
    ("safe", { owner := "do_mark_safe", run := fun _ v => do
      return .text (← textOf (v 0)) true }),
    ("string", { owner := "soft_str", parameters := [required "s"], run := fun _ v => do
      let (s, safe) ← softText (v 0)
      return .text s safe }),
    ("trim", { owner := "do_trim", parameters := [required "value", optionalNone "chars"]
               run := fun _ v => viaMember "strip" (v 0) [v 1] }),
    ("center", { owner := "do_center", parameters := [required "value", optional "width" (.whole 80)]
                 run := fun _ v => viaMember "center" (v 0) [v 1] }),
    ("replace", { owner := "do_replace", hidden := ["eval_ctx"]
                  parameters := [required "s", required "old", required "new", optionalNone "count"]
                  run := fun c v => replace c (v 0) (v 1) (v 2) (v 3) }),
    ("indent", { owner := "do_indent"
                 parameters := [required "s", optional "width" (.whole 4), flag "first" false,
                   flag "blank" false]
                 run := fun _ v => do indent (v 0) (v 1) (← holds (v 2)) (← holds (v 3)) }),
    ("truncate", { owner := "do_truncate", hidden := ["env"]
                   parameters := [required "s", optional "length" (.whole 255),
                     flag "killwords" false, optional "end" (.plain "..."), optionalNone "leeway"]
                   run := fun _ v => truncate (v 0) (v 1) (v 2) (v 3) (v 4) }),
    ("wordwrap", { owner := "do_wordwrap", hidden := ["environment"]
                   parameters := [required "s", optional "width" (.whole 79),
                     flag "break_long_words" true, optionalNone "wrapstring",
                     flag "break_on_hyphens" true]
                   run := fun _ v => wrap (v 0) (v 1) (v 2) (v 3) (v 4) }),
    ("wordcount", { owner := "do_wordcount", parameters := [required "s"], run := fun _ v => do
      return .whole (wordCount (← softText (v 0)).1) }),
    ("striptags", { owner := "do_striptags", run := fun _ v => do
      return .ofChars (← stripTags (← textOf (v 0))) false }),
    ("urlencode", { owner := "do_urlencode", run := fun _ v => address (v 0) }),
    ("urlize", { owner := "do_urlize", hidden := ["eval_ctx"]
                 parameters := [required "value", optionalNone "trim_url_limit",
                   flag "nofollow" false, optionalNone "target", optionalNone "rel",
                   optionalNone "extra_schemes"]
                 run := fun c v => links c (v 0) (v 1) (v 2) (v 3) (v 4) }),
    ("xmlattr", { owner := "do_xmlattr", hidden := ["eval_ctx"]
                  parameters := [required "d", flag "autospace" true]
                  run := fun c v => attributes c (v 0) (v 1) })]

end SchemaWrappers.Template.Filters
