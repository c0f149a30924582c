import SchemaWrappers.Yaml.Lexer
import SchemaWrappers.Yaml.Node
import SchemaWrappers.Yaml.Scalar

/-! YAML documents. A document is kept as its nodes, whose values are asked for one by one, since
aliases may make the whole larger than any text. -/
namespace SchemaWrappers.Yaml

/-- `room` is how deep calls may go. -/
structure Document where
  root : Node
  anchors : List (String × Node)
  size : Nat
  room : Nat

namespace Document

def follow (d : Document) : Node → Node
  | .alias name => (d.anchors.lookup name).getD .empty
  | n => n

/-- The text of a scalar. A mapping with a pair for its value stands for that. -/
def scalarText (d : Document) : Nat → Node → Except Error Text.Spelled
  | 0, _ => .error .tooDeep
  | fuel + 1, n =>
    match d.follow n with
    | .scalar _ text => .ok text
    | .mapping _ pairs =>
      match pairs.find? fun p => match d.follow p.1 with
          | .scalar .value _ => true
          | _ => false with
      | some p => d.scalarText fuel p.2
      | none => .error .malformed
    | _ => .error .malformed

def tagOf (d : Document) (n : Node) : Tag :=
  match d.follow n with
  | .scalar tag _ | .sequence tag _ | .mapping tag _ => tag
  | .alias _ => .unknown

/-- The value of a scalar; a pair's key that looks like the mark of a value is a text. -/
def scalar (d : Document) (n : Node) : Except Error Scalar := do
  let text ← d.scalarText (d.room + 1) n
  match d.tagOf n, d.follow n with
  | .moment, .mapping .. => throw .notText
  | tag, _ => Scalar.ofTag tag text

def isCollection (d : Document) (n : Node) : Bool :=
  match d.tagOf n with
  | .sequence | .mapping | .set | .ordered | .pairs => true
  | _ => false

def keyOf (d : Document) (n : Node) : Node :=
  match d.follow n with
  | .scalar .value text => .scalar .text text
  | _ => n

/-- The pairs of a mapping with those that are merged into it before its own. `within` are the
aliases that led here; a mapping merged into itself adds its own pairs alone. -/
def merged (d : Document) : Nat → List String → List (Node × Node) →
    Except Error (List (Node × Node))
  | 0, _, _ => .error .unfollowed
  | fuel + 1, within, pairs => do
    let isMerge (p : Node × Node) := d.tagOf p.1 == .merge
    let own := (pairs.filter (!isMerge ·)).map fun p => (d.keyOf p.1, p.2)
    let part (n : Node) : Except Error (List (Node × Node)) :=
      match n, d.follow n with
      | .alias name, .mapping _ ps =>
        if within.contains name then .ok (ps.filter (!isMerge ·))
        else d.merged fuel (name :: within) ps
      | _, .mapping _ ps => d.merged fuel within ps
      | _, _ => .error .malformed
    let parts ← (pairs.filter isMerge).mapM fun p =>
      match d.follow p.2 with
      | .sequence _ items => return (← items.mapM part).reverse.flatten
      | _ => part p.2
    return parts.flatten ++ own

def pairsOf (d : Document) (pairs : List (Node × Node)) : Except Error (List (Node × Node)) :=
  d.merged (d.room + 1) [] pairs

/-- Checks a node on the way through its parent. Collections wait until their parent is done; an
alias was checked where its anchor stands. -/
def visit (d : Document) (n : Node) : Except Error (List Node) :=
  match n with
  | .alias _ => .ok []
  | _ =>
    if d.isCollection n then .ok [n]
    else do
      let _ ← d.scalar n
      return []

/-- Checks a pair. Collections cannot be keys unless `loose`. -/
def visitPair (d : Document) (loose : Bool) (p : Node × Node) : Except Error (List Node) := do
  let keys ← d.visit p.1
  if !loose && d.isCollection p.1 then throw .malformed
  return keys ++ (← d.visit p.2)

/-- Checks what a collection is made up of; the collections among it are left to be checked. -/
def inside (d : Document) (n : Node) : Except Error (List Node) :=
  match d.tagOf n, d.follow n with
  | .sequence, .sequence _ items => return (← items.mapM d.visit).flatten
  | .mapping, .mapping _ pairs | .set, .mapping _ pairs => do
    return (← (← d.pairsOf pairs).mapM (d.visitPair false)).flatten
  | .ordered, .sequence _ items | .pairs, .sequence _ items => do
    let nodes ← items.mapM fun item =>
      match d.follow item with
      | .mapping _ [p] => d.visitPair true p
      | _ => .error .malformed
    return nodes.flatten
  | _, _ => .error .malformed

def check (d : Document) : Nat → List Node → Except Error Unit
  | _, [] => .ok ()
  | 0, _ => .error .malformed
  | fuel + 1, ns => do d.check fuel (← ns.mapM d.inside).flatten

end Document

/-- The document of a text, if there is one; all values in it are of the kinds they are said to
be. -/
def read (room : Nat) (cs : List Char) : Except Error (Option Document) := do
  let ts := tokens cs
  match ← Composer.document room ts with
  | none => return none
  | some (root, anchors) =>
    let d : Document := { root, anchors, size := ts.length, room }
    d.check (d.size + 1) (← d.visit root)
    return some d

namespace Document

/-- The pairs with a text for their key, if the document is a mapping. -/
def fields? (d : Document) : Option (List (String × Node)) :=
  match d.tagOf d.root, d.root with
  | .mapping, .mapping _ pairs =>
    match d.pairsOf pairs with
    | .ok pairs => some (pairs.filterMap fun p =>
        match d.isCollection p.1, d.scalar p.1 with
        | false, .ok (.text s) => some (s, p.2)
        | _, _ => none)
    | .error _ => none
  | _, _ => none

end Document
end SchemaWrappers.Yaml
