import SchemaWrappers.Template.Scope

/-! The values that templates work on. What can change is kept in cells, and its value is the number
of its cell. -/
namespace SchemaWrappers.Template

/-- What a template is told of a method. -/
structure Stub where
  name : String
  comment : String
  params : String
  deriving DecidableEq, Repr

/-- The sides from which a table is looked at. -/
inductive View where
  | keys
  | values
  | items
  deriving DecidableEq, Repr

/-- Functions that every template knows. -/
inductive Builtin where
  | range
  | table
  | cycler
  | joiner
  | space
  | filler
  deriving DecidableEq, Repr

/-- `absent` is what there is no value for: it bears the text of the failure that its use causes,
and when it is strict nearly every use does. A safe text is not escaped again. A walk runs through
values once; it bears the name of its kind. -/
inductive Value where
  | none
  | truth (b : Bool)
  | whole (n : Int)
  | decimal (x : Float)
  | text (s : String) (safe : Bool)
  | tuple (items : List Value)
  | group (key members : Value)
  | span (start stop step : Int)
  | list (cell : Nat)
  | table (cell : Nat)
  | view (side : View) (table : Nat)
  | walk (sort : String) (cell : Nat)
  | stub (s : Stub)
  | absent (strict : Bool) (message : String)
  | loop (cell : Nat)
  | cycler (cell : Nat)
  | joiner (cell : Nat)
  | space (cell : Nat)
  | routine (cell : Nat)
  | library (cell : Nat)
  | self (context : Nat)
  | block (name : String) (context depth : Nat)
  | member (owner : Value) (name : String)
  | function (f : Builtin)
  | sort (name : String)
  | missing
  deriving Inhabited

namespace Value

def plain (s : String) : Value := text s false

def ofChars (cs : List Char) (safe : Bool) : Value := text (String.ofList cs) safe

def Builtin.sortName : Builtin → String
  | .range => "range"
  | .table => "dict"
  | .cycler => "Cycler"
  | .joiner => "Joiner"
  | .space => "Namespace"
  | .filler => "function"

def sortName : Value → String
  | none => "NoneType"
  | truth _ => "bool"
  | whole _ => "int"
  | decimal _ => "float"
  | text _ safe => if safe then "Markup" else "str"
  | tuple _ => "tuple"
  | group .. => "_GroupTuple"
  | span .. => "range"
  | list _ => "list"
  | table _ => "dict"
  | view .keys _ => "dict_keys"
  | view .values _ => "dict_values"
  | view .items _ => "dict_items"
  | walk name _ => name
  | stub _ => "TemplateData"
  | absent strict _ => if strict then "StrictUndefined" else "Undefined"
  | loop _ => "LoopContext"
  | cycler _ => "Cycler"
  | joiner _ => "Joiner"
  | space _ => "Namespace"
  | routine _ => "Macro"
  | library _ => "TemplateModule"
  | self _ => "TemplateReference"
  | block .. => "BlockReference"
  | member (routine _) _ | member (loop _) _ | member (cycler _) _ => "method"
  | member .. => "builtin_function_or_method"
  | function .filler => "function"
  | function _ | sort _ => "type"
  | missing => "MissingType"

def sortOrigins : List (String × String) :=
  [("Markup", "markupsafe"), ("_GroupTuple", "jinja2.filters"), ("TemplateData", "buildergen.models"),
    ("StrictUndefined", "jinja2.runtime"), ("Undefined", "jinja2.runtime"),
    ("LoopContext", "jinja2.runtime"), ("Macro", "jinja2.runtime"),
    ("TemplateReference", "jinja2.runtime"), ("BlockReference", "jinja2.runtime"),
    ("Cycler", "jinja2.utils"), ("Joiner", "jinja2.utils"), ("Namespace", "jinja2.utils"),
    ("TemplateModule", "jinja2.environment"), ("MissingType", "jinja2.utils")]

def originName (sort : String) : String :=
  ((sortOrigins.lookup sort).map (· ++ "." ++ sort)).getD sort

/-- What a value is called in messages about what it lacks. -/
def kindName : Value → String
  | none => "None"
  | v => originName v.sortName ++ " object"

def whole? : Value → Option Int
  | truth b => some (if b then 1 else 0)
  | whole n => some n
  | _ => Option.none

/-- Whether a value is the same object as another one. Small numbers and short texts are; lists and
other values that can change are the same only if they are in one cell. -/
def same : Value → Value → Bool
  | none, none | missing, missing => true
  | truth a, truth b => a == b
  | whole a, whole b => a == b
  | decimal a, decimal b => a.toBits == b.toBits
  | text a s, text b t => a == b && s == t
  | tuple as, tuple bs => sameAll as bs
  | group a x, group b y => same a b && same x y
  | span a b c, span d e f => a == d && b == e && c == f
  | list a, list b | table a, table b | walk _ a, walk _ b | loop a, loop b | cycler a, cycler b
  | joiner a, joiner b | space a, space b | routine a, routine b | library a, library b => a == b
  | stub a, stub b => a == b
  | function a, function b => a == b
  | sort a, sort b => a == b
  | _, _ => false
where
  sameAll : List Value → List Value → Bool
    | [], [] => true
    | a :: as, b :: bs => same a b && sameAll as bs
    | _, _ => false

/-- The entry at a place that is counted from the end if it is negative. -/
def at? (items : List α) (n : Int) : Option α :=
  if 0 ≤ n then items[n.toNat]?
  else if n.natAbs ≤ items.length then items[items.length - n.natAbs]?
  else Option.none

def spanLength (start stop step : Int) : Nat :=
  if 0 < step then ((stop - start + step - 1) / step).toNat
  else ((start - stop - step - 1) / (-step)).toNat

end Value

/-- The arguments of a call, by place and by name. -/
structure Arguments where
  places : List Value := []
  names : List (String × Value) := []

end SchemaWrappers.Template
