import SchemaWrappers.Text.Number
import SchemaWrappers.Yaml.Document

namespace SchemaWrappers

/-- `shown` is the text of a number or a truth value, if it can be written, and `halved` is a text with
half of a surrogate pair in it. A list keeps the items that are made up of no others. -/
inductive Setting where
  | text (s : String)
  | halved
  | shown (s : Option String)
  | list (items : List (Except Yaml.Error String))
  | unusable

namespace Setting

def written : Option String → Except Yaml.Error String
  | some s => .ok s
  | none => .error .unwritable

def text? : Setting → Except Yaml.Error (Option String)
  | text s => .ok (some s)
  | halved => .error .unfollowed
  | shown s => (written s).map some
  | _ => .ok none

def texts : Setting → Except Yaml.Error (List String)
  | text s => .ok [s]
  | halved => .error .unfollowed
  | list items => items.mapM id
  | _ => .ok []

/-- The text of a setting, or a fallback if it has none or an empty one. -/
def textOr (x : Setting) (fallback : String) : Except Yaml.Error String := do
  match ← x.text? with
  | some s => return if s.isEmpty then fallback else s
  | none => return fallback

def textsOr (x : Setting) (fallback : List String) : Except Yaml.Error (List String) := do
  let texts ← x.texts
  return if texts.isEmpty then fallback else texts

def truthText (b : Bool) : String := if b then "True" else "False"

def item? : Setting → Option (Except Yaml.Error String)
  | text s => some (.ok s)
  | halved => some (.error .unfollowed)
  | shown s => some (written s)
  | _ => none

def ofScalar : Yaml.Scalar → Setting
  | .text s => text s
  | .halved _ => halved
  | .truth b => shown (truthText b)
  | .whole n => shown (Text.wholeText? n)
  | .decimal x => shown (Decimal.text x)
  | .bytes bs => list (bs.map fun b => .ok (toString b.toNat))
  | _ => unusable

def ofNode (d : Yaml.Document) (n : Yaml.Node) : Setting :=
  let scalar (n : Yaml.Node) : Setting := ((d.scalar n).map ofScalar).toOption.getD unusable
  if d.isCollection n then
    match d.tagOf n, d.follow n with
    | .sequence, .sequence _ items =>
      list (items.filterMap fun i => if d.isCollection i then none else (scalar i).item?)
    | .ordered, _ | .pairs, _ => list []
    | _, _ => unusable
  else scalar n

end Setting
end SchemaWrappers
