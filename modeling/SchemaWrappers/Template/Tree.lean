import SchemaWrappers.Template.Token

namespace SchemaWrappers.Template

inductive Operation where
  | add
  | subtract
  | multiply
  | divide
  | quotient
  | remainder
  | power
  deriving DecidableEq, Repr

inductive Comparison where
  | equal
  | different
  | less
  | atMost
  | more
  | atLeast
  | within
  | without
  deriving DecidableEq, Repr

/-- Values that are known before a template is filled in. -/
inductive Constant where
  | none
  | truth (b : Bool)
  | whole (n : Int)
  | decimal (x : Float)
  | text (s : String) (safe : Bool)
  | tuple (items : List Constant)
  | list (items : List Constant)
  | table (pairs : List (Constant × Constant))
  | span (start stop step : Int)

/-- What is given to a call: by place and by name, and values that hold more of either. -/
structure Given (α : Type) where
  places : List α := []
  names : List (String × α) := []
  morePlaces : Option α := none
  moreNames : Option α := none

/-- The filter without an input is applied to the text of a body. A choice bears the line that it
starts on. -/
inductive Expr where
  | constant (c : Constant)
  | name (s : String)
  | list (items : List Expr)
  | tuple (items : List Expr)
  | table (pairs : List (Expr × Expr))
  | field (owner : Expr) (name : String)
  | item (owner index : Expr)
  | slice (owner : Expr) (start stop step : Option Expr)
  | call (f : Expr) (given : Given Expr)
  | filter (input : Option Expr) (name : String) (given : Given Expr)
  | test (input : Expr) (name : String) (given : Given Expr)
  | plus (e : Expr)
  | minus (e : Expr)
  | not (e : Expr)
  | operate (op : Operation) (a b : Expr)
  | join (parts : List Expr)
  | both (a b : Expr)
  | either (a b : Expr)
  | compare (first : Expr) (others : List (Comparison × Expr))
  | choose (line : Nat) (condition yes : Expr) (no : Option Expr)

/-- What a value is given to: a name, several targets, or an entry of a name space. -/
inductive Target where
  | name (s : String)
  | many (targets : List Target)
  | entry (owner name : String)

/-- What a macro may be called with. -/
structure Formal where
  name : String
  fallback : Option Expr

/-- A stretch of plain text, or a value whose text is put in. -/
inductive Item where
  | data (s : String)
  | value (e : Expr)

/-- Where what another template defines is taken from; in a context of its own it does not see the
names around it. -/
structure Source where
  template : Expr
  shared : Bool
  line : Nat

/-- A part of a template. -/
inductive Part where
  | output (items : List Item)
  | choose (branches : List (Expr × List Part)) (otherwise : List Part)
  | loop (target : Target) (source : Expr) (only : Option Expr) (recursive : Bool)
      (body otherwise : List Part)
  | assign (target : Target) (value : Expr)
  | capture (target : Target) (filter : Option Expr) (body : List Part)
  | define (name : String) (parameters : List Formal) (body : List Part)
  | callWith (parameters : List Formal) (call : Expr) (body : List Part)
  | bind (names : List (Target × Expr)) (body : List Part)
  | filter (value : Expr) (body : List Part)
  | escape (on : Expr) (body : List Part)
  | block (name : String) (sees required : Bool) (body : List Part)
  | inclusion (source : Source) (optional : Bool)
  | importAs (source : Source) (name : String)
  | importNames (source : Source) (names : List (String × String))
  | extend (template : Expr)

/-- A body that is defined by name, with the parameters that its definition names. -/
structure Macro where
  name : Option String
  parameters : List Formal
  body : List Part

mutual
def Part.within : Part → List Part
  | .choose branches otherwise =>
    .choose branches otherwise :: (Part.withinBranches branches ++ Part.withinAll otherwise)
  | .loop t s o r body otherwise =>
    .loop t s o r body otherwise :: (Part.withinAll body ++ Part.withinAll otherwise)
  | .capture t f body => .capture t f body :: Part.withinAll body
  | .define n ps body => .define n ps body :: Part.withinAll body
  | .callWith ps c body => .callWith ps c body :: Part.withinAll body
  | .bind ns body => .bind ns body :: Part.withinAll body
  | .filter v body => .filter v body :: Part.withinAll body
  | .escape e body => .escape e body :: Part.withinAll body
  | .block n s r body => .block n s r body :: Part.withinAll body
  | p => [p]

def Part.withinAll : List Part → List Part
  | [] => []
  | p :: ps => p.within ++ Part.withinAll ps

def Part.withinBranches : List (Expr × List Part) → List Part
  | [] => []
  | (_, ps) :: bs => Part.withinAll ps ++ Part.withinBranches bs
end

namespace Given

def all (g : Given α) : List α :=
  g.places ++ g.names.map (·.2) ++ g.morePlaces.toList ++ g.moreNames.toList

theorem sizeOf_lt_of_mem_all [SizeOf α] {g : Given α} {a : α} (h : a ∈ g.all) :
    sizeOf a < sizeOf g := by
  obtain ⟨places, names, p, n⟩ := g
  simp only [all, List.mem_append, List.mem_map, Option.mem_toList] at h
  simp only [Given.mk.sizeOf_spec]
  rcases h with ((h | ⟨⟨s, b⟩, h, rfl⟩) | h) | h
  · have := List.sizeOf_lt_of_mem h; omega
  · have := List.sizeOf_lt_of_mem h
    simp only [Prod.mk.sizeOf_spec] at this ⊢
    omega
  · subst h; simp only [Option.some.sizeOf_spec]; omega
  · subst h; simp only [Option.some.sizeOf_spec]; omega

end Given

namespace Expr

/-- The expressions that stand directly in an expression. -/
def children : Expr → List Expr
  | constant _ | name _ => []
  | list es | tuple es | join es => es
  | table pairs => pairs.map (·.1) ++ pairs.map (·.2)
  | field e _ | plus e | minus e | not e => [e]
  | item a b | operate _ a b | both a b | either a b => [a, b]
  | slice e a b c => e :: (a.toList ++ b.toList ++ c.toList)
  | call f g => f :: g.all
  | filter input _ g => input.toList ++ g.all
  | test input _ g => input :: g.all
  | compare e others => e :: others.map (·.2)
  | choose _ c a b => c :: a :: b.toList

theorem sizeOf_lt_of_mem_children {e c : Expr} (h : c ∈ e.children) : sizeOf c < sizeOf e := by
  have pair {β γ : Type} [SizeOf β] [SizeOf γ] {ps : List (β × γ)} {p : β × γ} (h : p ∈ ps) :
      sizeOf p.1 < sizeOf ps ∧ sizeOf p.2 < sizeOf ps := by
    have := List.sizeOf_lt_of_mem h
    obtain ⟨a, b⟩ := p
    simp only [Prod.mk.sizeOf_spec] at this ⊢
    omega
  have opt {o : Option Expr} (h : c ∈ o) : sizeOf c < sizeOf o := by
    cases h; simp only [Option.some.sizeOf_spec]; omega
  cases e <;> simp only [children, List.mem_cons, List.mem_append, List.mem_map, Option.mem_toList,
    List.not_mem_nil, or_false] at h <;> simp only [list.sizeOf_spec, tuple.sizeOf_spec,
    join.sizeOf_spec, table.sizeOf_spec, field.sizeOf_spec, plus.sizeOf_spec, minus.sizeOf_spec,
    not.sizeOf_spec, item.sizeOf_spec, operate.sizeOf_spec, both.sizeOf_spec, either.sizeOf_spec,
    slice.sizeOf_spec, call.sizeOf_spec, filter.sizeOf_spec, test.sizeOf_spec, compare.sizeOf_spec,
    choose.sizeOf_spec]
  case list | tuple | join => have := List.sizeOf_lt_of_mem h; omega
  case table =>
    rcases h with ⟨p, h, rfl⟩ | ⟨p, h, rfl⟩ <;> have := pair h <;> omega
  case field | plus | minus | not => subst h; omega
  case item | operate | both | either => rcases h with rfl | rfl <;> omega
  case slice =>
    rcases h with rfl | (h | h) | h
    · omega
    all_goals have := opt h; omega
  case call =>
    rcases h with rfl | h
    · omega
    · have := Given.sizeOf_lt_of_mem_all h; omega
  case filter =>
    rcases h with h | h
    · have := opt h; omega
    · have := Given.sizeOf_lt_of_mem_all h; omega
  case test =>
    rcases h with rfl | h
    · omega
    · have := Given.sizeOf_lt_of_mem_all h; omega
  case compare =>
    rcases h with rfl | ⟨p, h, rfl⟩
    · omega
    · have := pair h; omega
  case choose =>
    rcases h with rfl | rfl | h
    · omega
    · omega
    · have := opt h; omega

/-- The names that an expression asks for, from left to right. -/
def names (e : Expr) : List String :=
  match e with
  | name s => [s]
  | e => e.children.attach.flatMap fun c => c.1.names
termination_by sizeOf e
decreasing_by exact sizeOf_lt_of_mem_children c.2

end Expr
end SchemaWrappers.Template
