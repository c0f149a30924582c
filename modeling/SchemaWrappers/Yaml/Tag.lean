import SchemaWrappers.Text.Character
import SchemaWrappers.Yaml.Moment

/-! The kinds of YAML nodes, and the kind that a plain scalar has by its looks. -/
namespace SchemaWrappers.Yaml

inductive Tag where
  | null
  | truth
  | whole
  | decimal
  | moment
  | merge
  | value
  | binary
  | text
  | sequence
  | mapping
  | set
  | ordered
  | pairs
  | unknown
  deriving DecidableEq, Repr

namespace Tag

def names : List (String × Tag) :=
  [("null", null), ("bool", truth), ("int", whole), ("float", decimal), ("timestamp", moment),
    ("merge", merge), ("value", value), ("binary", binary), ("str", text), ("seq", sequence),
    ("map", mapping), ("set", set), ("omap", ordered), ("pairs", pairs)]

/-- What the names of all known kinds start with. -/
def common : String := "tag:yaml.org,2002:"

def ofName (name : String) : Tag :=
  ((names.find? fun n => common ++ n.1 == name).map (·.2)).getD unknown

def isFigure (c : Char) : Bool := c.isDigit || c == '_'

def isHexFigure (c : Char) : Bool :=
  isFigure c || ('a' ≤ c && c ≤ 'f') || ('A' ≤ c && c ≤ 'F')

def isFigures : List Char → Bool
  | c :: cs => c.isDigit && cs.all isFigure
  | [] => false

def isSixtieth : List Char → Bool
  | [c] => c.isDigit
  | [b, c] => '0' ≤ b && b ≤ '5' && c.isDigit
  | _ => false

/-- Two numbers or more with colons between them, all but the first below sixty. -/
def isSexagesimal (first : List Char → Bool) (cs : List Char) : Bool :=
  match Text.pieces (· == ':') cs with
  | front :: parts => first front && !parts.isEmpty && parts.all isSixtieth
  | [] => false

def unsigned : List Char → List Char
  | '+' :: cs | '-' :: cs => cs
  | cs => cs

def isPositive (cs : List Char) : Bool := isFigures cs && cs.head? != some '0'

def isWhole (cs : List Char) : Bool :=
  match unsigned cs with
  | ['0'] => true
  | '0' :: 'b' :: cs => !cs.isEmpty && cs.all fun c => c == '0' || c == '1' || c == '_'
  | '0' :: 'x' :: cs => !cs.isEmpty && cs.all isHexFigure
  | '0' :: cs => cs.all fun c => c == '_' || ('0' ≤ c && c ≤ '7')
  | cs => isPositive cs || isSexagesimal isPositive cs

/-- What may stand behind a decimal point. -/
def isFraction (cs : List Char) : Bool :=
  match cs.dropWhile isFigure with
  | [] => true
  | e :: s :: ds =>
    (e == 'e' || e == 'E') && (s == '+' || s == '-') && !ds.isEmpty && ds.all (·.isDigit)
  | [_] => false

def isBareFraction : List Char → Bool
  | '.' :: c :: cs => c.isDigit && isFraction cs
  | _ => false

/-- Figures, perhaps as sixties, then a point and a fraction. -/
def isPointed (cs : List Char) : Bool :=
  let front := cs.takeWhile (· != '.')
  match cs.dropWhile (· != '.') with
  | '.' :: fraction =>
    (isFigures front && isFraction fraction) ||
      (isSexagesimal isFigures front && fraction.all isFigure)
  | _ => false

def isDecimal (cs : List Char) : Bool :=
  let u := unsigned cs
  [".inf", ".Inf", ".INF"].contains (String.ofList u) ||
    [".nan", ".NaN", ".NAN"].contains (String.ofList cs) || isBareFraction cs || isPointed u

def nullWords : List String := ["", "~", "null", "Null", "NULL"]

def truthWords : List String :=
  ["yes", "no", "true", "false", "on", "off"].flatMap fun w =>
    [w, String.ofList ((w.toList.take 1).map Char.toUpper ++ w.toList.drop 1),
      String.ofList (w.toList.map Char.toUpper)]

/-- The kind of a scalar that is told by its looks alone. A line end behind a text does not count. -/
def ofLooks (s : String) : Tag :=
  let cs := if s == "\n" then ['\n'] else Text.withoutLineEnd s.toList
  let s := String.ofList cs
  if truthWords.contains s then truth
  else if isDecimal cs then decimal
  else if isWhole cs then whole
  else if s == "<<" then merge
  else if nullWords.contains s then null
  else if Moment.isWritten cs then moment
  else if s == "=" then value
  else text

end Tag
end SchemaWrappers.Yaml
