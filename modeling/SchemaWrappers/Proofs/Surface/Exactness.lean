import SchemaWrappers.Proofs.Places
import SchemaWrappers.Proofs.Surface.Unwrapping

/-! The public surface is exact: one overload for each public method of an allowed class at the top
of a root, and no other. -/
namespace SchemaWrappers.Surface
open Syntax

def Hidden (s : Source) (w : Node) : Prop :=
  w.kind = "accessibility_modifier" ∧ (s.textOf w = "private" ∨ s.textOf w = "protected")

def Accessor (name w : Node) : Prop :=
  w.named = false ∧ (w.kind = "get" ∨ w.kind = "set") ∧ w.start < name.start

/-- A child `c` of the root of `s` leads to an allowed class, the member at the place `k` of its body
is a public method, and `o` is what it declares. -/
inductive Declares (allowed : List String) (s : Source) (c : Node) (k : Nat) : Overload → Prop where
  | intro {cls title body member name : Node} (leads : Leads c cls)
      (kind : cls.kind = "class_declaration" ∨ cls.kind = "abstract_class_declaration")
      (titled : cls.child? "name" = some title) (isAllowed : s.textOf title ∈ allowed)
      (bodied : cls.child? "body" = some body) (at_ : body.namedChildren[k]? = some member)
      (method : member.kind = "method_signature" ∨ member.kind = "method_definition" ∨
        member.kind = "abstract_method_signature")
      (called : member.child? "name" = some name) (plain : name.kind = "property_identifier")
      (visible : ∀ w ∈ member.children, ¬ Hidden s w)
      (noAccessor : ∀ w ∈ member.children, ¬ Accessor name w) :
      Declares allowed s c k (declaration ⟨s.textOf title, s, cls⟩ member name)

/-- The places of a program: a root source, a child of its root node, a member of a class body. -/
abbrev Spot := Nat × Nat × Nat

/-- By source, then by class, then by member. -/
def Spot.before : Spot → Spot → Prop := Nested (Nested (· < ·))

/-- What is declared at a place. -/
def DeclaredAt (p : Program) (allowed : List String) (x : Spot) (o : Overload) : Prop :=
  ∃ s c, p.rootSources[x.1]? = some s ∧ s.tree.namedChildren[x.2.1]? = some c ∧
    Declares allowed s c x.2.2 o

theorem hides_eq_true_iff {s : Source} {name w : Node} :
    hides s name w = true ↔ Hidden s w ∨ Accessor name w := by
  simp [hides, Hidden, Accessor, hiddenWords, accessorWords, and_assoc]

theorem guard_bind_eq {α : Type} {p : Prop} [Decidable p] (rest : Unit → Option α) :
    (guard p >>= rest) = if p then rest () else none := by
  unfold guard
  split <;> rfl

theorem guard_bind_eq_some_iff {α : Type} {p : Prop} [Decidable p]
    {rest : Unit → Option α} {a : α} :
    (guard p >>= rest) = some a ↔ p ∧ rest () = some a := by
  rw [guard_bind_eq, Option.ite_none_right_eq_some]

theorem overload?_eq_some_iff {b : Builder} {member : Node} {o : Overload} :
    overload? b member = some o ↔ member.kind ∈ methodKinds ∧
      ∃ name, member.child? "name" = some name ∧ name.kind = "property_identifier" ∧
        (∀ w ∈ member.children, ¬ Hidden b.source w) ∧
        (∀ w ∈ member.children, ¬ Accessor name w) ∧ declaration b member name = o := by
  have hshown : ∀ name : Node, (!member.children.any (hides b.source name)) = true ↔
      (∀ w ∈ member.children, ¬ Hidden b.source w) ∧ ∀ w ∈ member.children, ¬ Accessor name w := by
    intro name
    rw [Bool.not_eq_true', List.any_eq_false, ← forall₂_and]
    simp only [hides_eq_true_iff, not_or]
  unfold overload?
  rw [guard_bind_eq_some_iff, List.contains_iff_mem, Option.bind_eq_bind, Option.bind_eq_some_iff]
  refine and_congr_right fun _ => exists_congr fun name => and_congr_right fun _ => ?_
  rw [guard_bind_eq_some_iff, beq_iff_eq, guard_bind_eq_some_iff, hshown, Option.pure_def,
    Option.some.injEq, and_assoc]

theorem builder?_eq_some_iff {allowed : List String} {s : Source} {n : Node} {b : Builder} :
    builder? allowed s n = some b ↔ n.kind ∈ classKinds ∧
      ∃ title, n.child? "name" = some title ∧ s.textOf title ∈ allowed ∧
        ⟨s.textOf title, s, n⟩ = b := by
  unfold builder?
  rw [guard_bind_eq_some_iff, List.contains_iff_mem, Option.bind_eq_bind, Option.bind_eq_some_iff]
  refine and_congr_right fun _ => exists_congr fun title => and_congr_right fun _ => ?_
  rw [guard_bind_eq_some_iff, List.contains_iff_mem, Option.pure_def, Option.some.injEq]

def contributed (allowed : List String) (s : Source) (c : Node) : List Overload :=
  (((unwrap c).bind (builder? allowed s)).map members).getD []

theorem contributed_of_builder {allowed : List String} {s : Source} {c cls : Node} {b : Builder}
    (hl : Leads c cls) (hb : builder? allowed s cls = some b) :
    contributed allowed s c = members b := by
  rw [contributed, unwrap_eq_some_iff.mpr hl, Option.bind_some, hb, Option.map_some, Option.getD_some]

theorem overloads_builders (p : Program) (allowed : List String) :
    overloads (builders p allowed) =
      p.rootSources.flatMap fun s => s.tree.namedChildren.flatMap (contributed allowed s) := by
  have hchildren : ∀ (s : Source) (cs : List Node),
      ((cs.filterMap unwrap).filterMap (builder? allowed s)).flatMap members =
        cs.flatMap (contributed allowed s) := by
    intro s cs
    rw [List.filterMap_filterMap]
    induction cs with
    | nil => rfl
    | cons c cs ih =>
      rw [List.flatMap_cons, ← ih, List.filterMap_cons, contributed]
      cases (unwrap c).bind (builder? allowed s) with
      | none => rfl
      | some b => rfl
  rw [overloads, builders, List.flatMap_assoc]
  simp only [topLevel, hchildren]

private theorem lists_members (b : Builder) :
    Lists (· < ·) (fun (k : Nat) o => ∃ body, b.node.child? "body" = some body ∧
      ∃ member, body.namedChildren[k]? = some member ∧ overload? b member = some o) (members b) := by
  unfold members
  cases hbody : b.node.child? "body" with
  | none => exact .nil (by simp)
  | some body =>
    refine (Lists.filterMap (overload? b) body.namedChildren).congr fun k o => ?_
    simp only [Option.some.injEq, exists_eq_left']

theorem declares_iff {allowed : List String} {s : Source} {c : Node} {k : Nat} {o : Overload} :
    Declares allowed s c k o ↔ ∃ cls b body member, Leads c cls ∧ builder? allowed s cls = some b ∧
      cls.child? "body" = some body ∧ body.namedChildren[k]? = some member ∧
      overload? b member = some o := by
  constructor
  · rintro ⟨leads, kind, titled, isAllowed, bodied, at_, method, called, plain, visible, noAccessor⟩
    refine ⟨_, _, _, _, leads, builder?_eq_some_iff.mpr ⟨?_, _, titled, isAllowed, rfl⟩, bodied, at_,
      overload?_eq_some_iff.mpr ⟨?_, _, called, plain, visible, noAccessor, rfl⟩⟩
    · simpa [classKinds] using kind
    · simpa [methodKinds] using method
  · rintro ⟨cls, b, body, member, leads, hb, bodied, at_, ho⟩
    obtain ⟨kind, title, titled, isAllowed, rfl⟩ := builder?_eq_some_iff.mp hb
    obtain ⟨method, name, called, plain, visible, noAccessor, rfl⟩ := overload?_eq_some_iff.mp ho
    exact .intro leads (by simpa [classKinds] using kind) titled isAllowed bodied at_
      (by simpa [methodKinds] using method) called plain visible noAccessor

theorem lists_contributed (allowed : List String) (s : Source) (c : Node) :
    Lists (· < ·) (Declares allowed s c) (contributed allowed s c) := by
  cases hb : (unwrap c).bind (builder? allowed s) with
  | none =>
    rw [contributed, hb]
    refine .nil fun k o h => ?_
    obtain ⟨cls, b, _, _, leads, hb', -⟩ := declares_iff.mp h
    rw [unwrap_eq_some_iff.mpr leads, Option.bind_some, hb'] at hb
    cases hb
  | some b =>
    obtain ⟨cls, hc, hcls⟩ := Option.bind_eq_some_iff.mp hb
    have leads : Leads c cls := unwrap_eq_some_iff.mp hc
    obtain ⟨-, title, -, -, rfl⟩ := builder?_eq_some_iff.mp hcls
    rw [contributed_of_builder leads hcls]
    refine (lists_members _).congr fun k o => ?_
    rw [declares_iff]
    constructor
    · rintro ⟨body, bodied, member, at_, ho⟩
      exact ⟨cls, _, body, member, leads, hcls, bodied, at_, ho⟩
    · rintro ⟨cls', b', body, member, leads', hb', bodied, at_, ho⟩
      obtain rfl := leads.unique leads'
      obtain rfl := Option.some.inj (hcls.symm.trans hb')
      exact ⟨body, bodied, member, at_, ho⟩

/-- The surface is exact: what is listed is what is declared at the places of the program, once each,
by source, class and member. What stands within a declaration, be it a namespace, a block or a class,
is not led to, and taking wrappers off comes to an end. -/
theorem overloads_exact (p : Program) (allowed : List String) :
    Lists Spot.before (DeclaredAt p allowed) (overloads (builders p allowed)) ∧
      (∀ c d e, Leads c d ∧ Within d e → ¬ Leads c e) ∧
      ∀ n, ∃ k ≤ n.size, unwrapped k n = unwrap n ∧
        ∀ d, unwrapped k n = some d → isWrapper d = false := by
  refine ⟨?_, ?_, unwrapping_ends⟩
  · rw [overloads_builders]
    refine (Lists.flatMap fun s _ => Lists.flatMap fun c _ => lists_contributed allowed s c).congr ?_
    rintro ⟨i, j, k⟩ o
    constructor
    · rintro ⟨s, hs, c, hc, h⟩
      exact ⟨s, c, hs, hc, h⟩
    · rintro ⟨s, c, hs, hc, h⟩
      exact ⟨s, hs, c, hc, h⟩
  · rintro c d e ⟨hd, hin⟩ he
    obtain rfl := hd.unique he
    exact Nat.lt_irrefl _ hin.size_lt

end SchemaWrappers.Surface
