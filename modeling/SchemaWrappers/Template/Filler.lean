import SchemaWrappers.Template.TextMembers

namespace SchemaWrappers.Template.Eval

def fillerWords : List String :=
  ("a ac accumsan ad adipiscing aenean aliquam aliquet amet ante aptent arcu at auctor augue " ++
    "bibendum blandit class commodo condimentum congue consectetuer consequat conubia " ++
    "convallis cras cubilia cum curabitur curae cursus dapibus diam dictum dictumst dignissim " ++
    "dis dolor donec dui duis egestas eget eleifend elementum elit enim erat eros est et " ++
    "etiam eu euismod facilisi facilisis fames faucibus felis fermentum feugiat fringilla " ++
    "fusce gravida habitant habitasse hac hendrerit hymenaeos iaculis id imperdiet in " ++
    "inceptos integer interdum ipsum justo lacinia lacus laoreet lectus leo libero ligula " ++
    "litora lobortis lorem luctus maecenas magna magnis malesuada massa mattis mauris metus " ++
    "mi molestie mollis montes morbi mus nam nascetur natoque nec neque netus nibh nisi nisl " ++
    "non nonummy nostra nulla nullam nunc odio orci ornare parturient pede pellentesque " ++
    "penatibus per pharetra phasellus placerat platea porta porttitor posuere potenti " ++
    "praesent pretium primis proin pulvinar purus quam quis quisque rhoncus ridiculus risus " ++
    "rutrum sagittis sapien scelerisque sed sem semper senectus sit sociis sociosqu sodales " ++
    "sollicitudin suscipit suspendisse taciti tellus tempor tempus tincidunt torquent tortor " ++
    "tristique turpis ullamcorper ultrices ultricies urna ut varius vehicula vel velit " ++
    "venenatis vestibulum vitae vivamus viverra volutpat vulputate").splitOn " "

/-- A paragraph as far as it goes: its words, the latest first, the last one that was picked, whether a
sentence starts behind it, and the places that the next comma and the next full stop are counted
from. -/
structure Paragraph where
  words : List String := []
  picked : String := ""
  starts : Bool := true
  comma : Int := 0
  stop : Int := 0

/-- A paragraph with one more word, which is not the one before it. A sentence ends at some distance from
the last one, and there are commas at some distance from one another. -/
def Paragraph.next (p : Paragraph) (place : Nat) : Eval Paragraph := do
  let others := fillerWords.filter (· != p.picked)
  let picked := others[← draw others.length]?.getD ""
  let word := if p.starts then Text.capitalize picked else picked
  let comma := decide (p.comma < place - (3 + (← draw 5) : Nat))
  let stopAt := if comma then p.stop + 2 else p.stop
  let word := if comma then word ++ "," else word
  if stopAt < place - (10 + (← draw 10) : Nat) then
    return { words := (word ++ ".") :: p.words, picked, starts := true, comma := place, stop := place }
  else
    return { words := word :: p.words, picked, starts := false
             comma := if comma then place else p.comma, stop := stopAt }

def Paragraph.text (p : Paragraph) : String :=
  let text := " ".intercalate p.words.reverse
  if text.endsWith "," then (text.dropEnd 1).toString ++ "."
  else if text.endsWith "." then text
  else text ++ "."

def choiceBound (v : Value) (complaint : String) : Eval Int := do
  match v, v.whole? with
  | _, some n => return n
  | .decimal x, none =>
    if x.isNaN then value "cannot convert float NaN to integer"
    if x.isInf then throw (.misuse .overflow "cannot convert float infinity to integer")
    if x.floor == x then return Decimal.truncate x else value complaint
  | .text s _, none =>
    match Text.whole 10 s.toList with
    | .ok _ => value complaint
    | .error (.tooLong digits) => throw (.tooLong (some digits))
    | .error .malformed =>
      value s!"invalid literal for int() with base 10: {Text.quote s}"
  | .absent _ message, none => absent message
  | v, none =>
    kind ("int() argument must be a string, a bytes-like object or a real number, not " ++
      s!"'{v.sortName}'")

/-- A number from one bound up to another one, which is not reached; without the other one, from nought
up to the first. -/
def choose (low high : Value) : Eval Int := do
  let low ← choiceBound low "non-integer arg 1 for randrange()"
  match high with
  | .none =>
    if 0 < low then return (← draw low.toNat : Nat) else value "empty range for randrange()"
  | high =>
    let high ← choiceBound high "non-integer stop for randrange()"
    if low < high then return low + (← draw (high - low).toNat : Nat)
    else value s!"empty range for randrange() ({low}, {high}, {high - low})"

def paragraph (low high : Value) : Eval String := do
  let words ← choose low high
  let p ← (List.range words.toNat).foldlM Paragraph.next {}
  return p.text

/-- Paragraphs of filler text, as mark-up or with empty lines between them. -/
def filler (args : Arguments) : Eval Value := do
  let ps : List Parameter := [⟨"n", some (.whole 5)⟩, ⟨"html", some (.truth true)⟩,
    ⟨"min", some (.whole 20)⟩, ⟨"max", some (.whole 100)⟩]
  match ← bindTo "generate_lorem_ipsum" [] ps args with
  | [n, html, low, high] =>
    let texts ← (List.range (← index n).toNat).mapM fun _ => paragraph low high
    if ← holds html then
      return .text ("\n".intercalate (texts.map fun t => s!"<p>{escapedText t}</p>")) true
    else return .plain ("\n\n".intercalate texts)
  | _ => return .none

end SchemaWrappers.Template.Eval
