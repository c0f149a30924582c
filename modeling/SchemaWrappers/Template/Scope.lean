import SchemaWrappers.Template.Tree

/-! Which names a body declares, and where each gets its first value from. A body that only reads a
name leaves it to the bodies around it; one that gives it a value declares it. -/
namespace SchemaWrappers.Template

/-- Where a declared name gets its value from when its body is entered: it is set by what enters the
body, looked up in the context, copied from around, or left without a value. -/
inductive Start where
  | given
  | context
  | around
  | unset
  deriving DecidableEq, Repr

/-- The names that a body declares, and those among them that it gives values to. -/
structure Scope where
  starts : List (String × Start) := []
  stores : List String := []

namespace Scope

def declares (s : Scope) (n : String) : Bool := (s.starts.lookup n).isSome

/-- Declares a name, or changes where it gets its value from. -/
def define (s : Scope) (n : String) (start : Start) : Scope :=
  { s with starts :=
      if s.declares n then s.starts.map fun p => if p.1 == n then (n, start) else p
      else s.starts ++ [(n, start)] }

def noteStore (s : Scope) (n : String) : Scope :=
  { s with stores := if s.stores.contains n then s.stores else s.stores ++ [n] }

/-- A name that is set by what enters the body. -/
def give (s : Scope) (n : String) : Scope := (s.noteStore n).define n .given

def read (outer : String → Bool) (s : Scope) (n : String) : Scope :=
  if s.declares n || outer n then s else s.define n .context

/-- A name that is given a value. -/
def store (outer : String → Bool) (s : Scope) (n : String) : Scope :=
  let s := s.noteStore n
  if s.declares n then s else s.define n (if outer n then .around else .unset)

def readAll (outer : String → Bool) (s : Scope) (e : Expr) : Scope := e.names.foldl (read outer) s

/-- What branches of which one is taken declare together. A name that some of them give no value to
starts with the value that it has without them. -/
def merge (outer : String → Bool) (s : Scope) (branches : List Scope) : Scope :=
  let merged := branches.foldl (fun (m : Scope) b =>
    { starts := (b.starts.foldl (fun (m : Scope) p => m.define p.1 p.2) m).starts
      stores := (b.stores.foldl noteStore m).stores }) s
  let fresh := merged.stores.filter fun n => !s.stores.contains n
  fresh.foldl (fun m n =>
    if branches.all (·.stores.contains n) then m
    else m.define n (if outer n then .around else .context)) merged

end Scope

def Target.names : Target → List String
  | .name n => [n]
  | .many ts => namesOfAll ts
  | .entry .. => []
where
  namesOfAll : List Target → List String
    | [] => []
    | t :: ts => t.names ++ namesOfAll ts

def Target.owners : Target → List String
  | .name _ => []
  | .many ts => ownersOfAll ts
  | .entry owner _ => [owner]
where
  ownersOfAll : List Target → List String
    | [] => []
    | t :: ts => t.owners ++ ownersOfAll ts

namespace Scope

def target (outer : String → Bool) (s : Scope) (t : Target) : Scope :=
  t.names.foldl (store outer) (t.owners.foldl (read outer) s)

def items (outer : String → Bool) (s : Scope) (is : List Item) : Scope :=
  is.foldl (fun s i => match i with
    | .data _ => s
    | .value e => readAll outer s e) s

mutual
/-- What a part declares in its body; bodies of its own it keeps to itself, but for the branches of
a choice. -/
def part (outer : String → Bool) (s : Scope) : Part → Scope
  | .output is => items outer s is
  | .choose [] otherwise => parts outer s otherwise
  | .choose ((condition, body) :: others) otherwise =>
    let s := readAll outer s condition
    merge outer s [parts outer s body, further outer s others, parts outer s otherwise]
  | .loop _ source .. => readAll outer s source
  | .assign t e => target outer (readAll outer s e) t
  | .capture t .. => target outer s t
  | .define n .. => store outer s n
  | .callWith _ call _ => readAll outer s call
  | .bind names _ => names.foldl (fun s p => readAll outer s p.2) s
  | .filter e _ => readAll outer s e
  | .escape .. | .block .. => s
  | .inclusion source _ => readAll outer s source.template
  | .importAs source n => store outer (readAll outer s source.template) n
  | .importNames source names =>
    names.foldl (fun s p => store outer s p.2) (readAll outer s source.template)
  | .extend e => readAll outer s e

def parts (outer : String → Bool) (s : Scope) : List Part → Scope
  | [] => s
  | p :: ps => parts outer (part outer s p) ps

def further (outer : String → Bool) (s : Scope) : List (Expr × List Part) → Scope
  | [] => s
  | (condition, body) :: others =>
    let s := readAll outer s condition
    further outer (merge outer s [parts outer s body, s, s]) others
end

end Scope

/-- A name as it is met in a body: read, or given a value. -/
inductive Mention where
  | read (n : String)
  | given (n : String)

namespace Mention

def reads (e : Expr) : List Mention := e.names.map .read

def targets (t : Target) : List Mention := t.names.map .given

def formals (ps : List Formal) : List Mention :=
  ps.map (fun p => .given p.name) ++ ps.flatMap fun p => (p.fallback.map reads).getD []

mutual
/-- The names in a part and in all that it encloses but blocks, in order. -/
def ofPart : Part → List Mention
  | .output is => is.flatMap fun
    | .data _ => []
    | .value e => reads e
  | .choose branches otherwise => ofBranches branches ++ ofParts otherwise
  | .loop t source only _ body otherwise =>
    targets t ++ reads source ++ ofParts body ++ ofParts otherwise ++ (only.map reads).getD []
  | .assign t e => targets t ++ reads e
  | .capture t filter body => targets t ++ (filter.map reads).getD [] ++ ofParts body
  | .define _ ps body => formals ps ++ ofParts body
  | .callWith ps call body => reads call ++ formals ps ++ ofParts body
  | .bind names body =>
    names.flatMap (fun p => targets p.1) ++ names.flatMap (fun p => reads p.2) ++ ofParts body
  | .filter e body => ofParts body ++ reads e
  | .escape e body => reads e ++ ofParts body
  | .block .. => []
  | .inclusion source _ | .importAs source _ | .importNames source _ => reads source.template
  | .extend e => reads e

def ofParts : List Part → List Mention
  | [] => []
  | p :: ps => ofPart p ++ ofParts ps

def ofBranches : List (Expr × List Part) → List Mention
  | [] => []
  | (e, ps) :: bs => reads e ++ ofParts ps ++ ofBranches bs
end

end Mention

def asksFor (name : String) (ps : List Part) : Bool :=
  ((Mention.ofParts ps).find? fun
    | .read n | .given n => n == name) matches some (.read _)

/-- What the body of a macro asks for beyond its parameters: the body of its call, further names, and
further arguments. -/
def Macro.asks (m : Macro) : List String :=
  ["caller", "kwargs", "varargs"].filter fun n =>
    asksFor n m.body && !m.parameters.any (·.name == n)

namespace Scope

def gives (s : Scope) (names : List String) : Scope := names.foldl give s

/-- The names of a whole template or of a block, with those of `special` that it asks for. -/
def ofRoot (special : List String) (ps : List Part) : Scope :=
  parts (fun _ => false) (gives {} (special.filter fun n => asksFor n ps)) ps

def ofLoop (outer : String → Bool) (t : Target) (counted : Bool) (body : List Part) : Scope :=
  parts outer (gives {} ((if counted then ["loop"] else []) ++ t.names)) body

def ofCondition (outer : String → Bool) (t : Target) (condition : Expr) : Scope :=
  readAll outer (gives {} t.names) condition

def ofMacro (outer : String → Bool) (m : Macro) : Scope :=
  let s := gives {} (m.parameters.map (·.name))
  let s := m.parameters.foldl (fun s p => (p.fallback.map (readAll outer s)).getD s) s
  gives (parts outer s m.body) m.asks

def ofBinding (outer : String → Bool) (names : List (Target × Expr)) (body : List Part) : Scope :=
  parts outer (gives {} (names.flatMap (·.1.names))) body

def ofFilter (outer : String → Bool) (e : Expr) (body : List Part) : Scope :=
  readAll outer (parts outer {} body) e

def ofEscape (outer : String → Bool) (on : Expr) (body : List Part) : Scope :=
  parts outer (readAll outer {} on) body

def ofBody (outer : String → Bool) (body : List Part) : Scope := parts outer {} body

end Scope

def countsItself (body otherwise : List Part) (recursive : Bool) : Bool :=
  recursive || asksFor "loop" body ||
    (Part.withinAll (body ++ otherwise)).any fun
      | .block _ sees .. => sees
      | _ => false

end SchemaWrappers.Template
