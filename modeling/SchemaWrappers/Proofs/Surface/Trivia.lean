import SchemaWrappers.Proofs.Surface.Commented
import SchemaWrappers.Proofs.Surface.Naming

/-! Comments are trivia for the surface of a program: types apart, the same overloads are collected
wherever comments are put in, unless one hides what a rest pattern binds. Then names of parameters
change, and nothing else. -/
namespace SchemaWrappers

def Parameter.untyped (p : Parameter) : Parameter := { p with type := none }

def Parameter.unnamed (p : Parameter) : Parameter := { p with name := "" }

def Overload.untyped (o : Overload) : Overload where
  owner := o.owner
  name := o.name
  parameters := o.parameters.map (·.untyped)
  typeParameters := o.typeParameters.map fun q => { name := q.name }

def Overload.unnamed (o : Overload) : Overload :=
  { o with parameters := o.parameters.map (·.unnamed) }

namespace Surface
open Syntax
variable {mayHide : Prop} {s s' : Source} {n n' : Node}

namespace Commented

theorem name_text (h : Commented mayHide s s' n n') :
    (n'.child? "name").map s'.textOf = (n.child? "name").map s.textOf := by
  cases ht : n.child? "name" with
  | none => rw [h.child?_eq_none ht, Option.map_none, Option.map_none]
  | some t =>
    obtain ⟨t', ht', hcommented⟩ := h.child?_eq_some ht
    have hfield : t.field = some "name" := by simpa using List.find?_some ht
    rw [ht', Option.map_some, Option.map_some, hcommented.text (.inl hfield)]

theorem typeParameter?_name (h : Commented mayHide s s' n n') :
    (typeParameter? s' n').map (·.name) = (typeParameter? s n).map (·.name) := by
  have hname : ∀ (s : Source) (n : Node), (typeParameter? s n).map (·.name) =
      if n.kind == "type_parameter" then (n.child? "name").map s.textOf else none := by
    intro s n
    rw [typeParameter?, guard_bind_eq]
    split
    · cases n.child? "name" <;> rfl
    · rfl
  rw [hname, hname, h.kind, h.name_text]

theorem typeParameters_names (h : Commented mayHide s s' n n') :
    (typeParameters s' n').map (·.name) = (typeParameters s n).map (·.name) := by
  have hnames : List.Forall₂ Eq
      (n.namedChildren.filterMap fun m => (typeParameter? s m).map (·.name))
      (n'.namedChildren.filterMap fun m => (typeParameter? s' m).map (·.name)) := by
    refine h.namedChildren.filterMap (fun m m' hm => ?_) fun c hc => ?_
    · rw [hm.typeParameter?_name]
      cases (typeParameter? s m).map (·.name) with
      | none => exact .none
      | some x => exact .some rfl
    · rw [typeParameter?, guard_bind_eq, if_neg (by simp [hc.kind])]
      rfl
  rw [typeParameters, typeParameters, List.map_filterMap, List.map_filterMap]
  exact (List.forall₂_eq_eq_eq ▸ hnames).symm

end Commented

def identifierOf (s : Source) (b : Option Node) : Option String :=
  b.bind fun b => if b.kind == "identifier" then some (s.textOf b) else none

theorem identifier?_eq (s : Source) (f : Formal) : f.identifier? s = identifierOf s f.binding := by
  rw [Formal.identifier?, identifierOf, Option.bind_eq_bind]
  congr 1
  funext b
  rw [guard_bind_eq]
  rfl

/-- A formal with comments in it: it binds an argument in the same way, and the same identifier unless
comments may stand before it. -/
structure FormalCommented (mayHide : Prop) (s s' : Source) (f f' : Formal) : Prop where
  kind : f'.node.kind = f.node.kind
  rest : f'.rest = f.rest
  identifier : ¬ mayHide → f'.identifier? s' = f.identifier? s

namespace Commented

theorem identifierOf_eq (h : Commented mayHide s s' n n') :
    identifierOf s' (some n') = identifierOf s (some n) := by
  rw [identifierOf, identifierOf, Option.bind_some, Option.bind_some, h.kind]
  split
  · rename_i hk
    rw [h.text (.inr (.inl (beq_iff_eq.mp hk)))]
  · rfl

theorem identifierOf_head (h : Commented mayHide s s' n n') (hk : n.kind = "rest_pattern")
    (hf : n.field = some "pattern") (hshown : ¬ mayHide) :
    identifierOf s' n'.namedChildren.head? = identifierOf s n.namedChildren.head? := by
  obtain ⟨kept, hkept, hin⟩ := h.namedChildren
  rcases hin.head? with hcomment | hhead
  · have hnot : ∀ b ∈ n.namedChildren.head?, b.kind ≠ "identifier" := fun b hb hid =>
      hshown (h.binding ⟨hk, hf, ⟨b, hb, hid⟩, hcomment⟩)
    obtain ⟨c, hc, hcomment⟩ := hcomment
    have hnone : identifierOf s n.namedChildren.head? = none := by
      cases hb : n.namedChildren.head? with
      | none => rfl
      | some b => simpa [identifierOf] using hnot b hb
    rw [hnone, Option.mem_def.mp hc]
    simp [identifierOf, hcomment.kind]
  · rw [hhead]
    generalize n.namedChildren = ns at hkept
    cases hkept with
    | nil => rfl
    | cons hb _ => exact hb.identifierOf_eq

theorem ofNode? (h : Commented mayHide s s' n n') :
    Option.Rel (FormalCommented mayHide s s') (Formal.ofNode? n) (Formal.ofNode? n') := by
  have hof : ∀ n : Node, Formal.ofNode? n = if parameterKinds.contains n.kind then
      (n.child? "pattern").bind fun pattern => if pattern.kind != "this" then
        if pattern.kind == "rest_pattern" then some ⟨n, pattern.namedChildren.head?, true⟩
        else some ⟨n, some pattern, false⟩
      else none
    else none := by
    intro n
    rw [Formal.ofNode?, guard_bind_eq]
    congr 1
    rw [Option.bind_eq_bind]
    congr 1
    funext pattern
    rw [guard_bind_eq]
    rfl
  rw [hof, hof, h.kind]
  split
  · cases hp : n.child? "pattern" with
    | none =>
      rw [h.child?_eq_none hp]
      exact .none
    | some pattern =>
      obtain ⟨pattern', hp', hpattern⟩ := h.child?_eq_some hp
      have hfield : pattern.field = some "pattern" := by simpa using List.find?_some hp
      rw [hp', Option.bind_some, Option.bind_some, hpattern.kind]
      split
      · split
        · rename_i hrest
          refine .some ⟨h.kind, rfl, fun hshown => ?_⟩
          rw [identifier?_eq, identifier?_eq]
          exact hpattern.identifierOf_head (beq_iff_eq.mp hrest) hfield hshown
        · refine .some ⟨h.kind, rfl, fun _ => ?_⟩
          rw [identifier?_eq, identifier?_eq]
          exact hpattern.identifierOf_eq
      · exact .none
  · exact .none

theorem formals (h : Commented mayHide s s' n n') :
    List.Forall₂ (FormalCommented mayHide s s') (formals n) (formals n') := by
  refine h.namedChildren.filterMap (fun m m' hm => hm.ofNode?) fun c hc => ?_
  rw [Formal.ofNode?, guard_bind_eq, if_neg (by simp [hc.kind, parameterKinds])]

end Commented

section
variable {fs fs' : List Formal} (h : List.Forall₂ (FormalCommented mayHide s s') fs fs')
include h

theorem identifiers_commented (hshown : ¬ mayHide) :
    fs'.filterMap (·.identifier? s') = fs.filterMap (·.identifier? s) := by
  induction h with
  | nil => rfl
  | cons hf _ ih => rw [List.filterMap_cons, List.filterMap_cons, hf.identifier hshown, ih]

theorem formalNames_commented (hshown : ¬ mayHide) (taken : List String) (position : Nat) :
    formalNames s' taken position fs' = formalNames s taken position fs := by
  induction h generalizing taken position with
  | nil => rfl
  | @cons f f' fs fs' hf _ ih =>
    rw [formalNames, formalNames, hf.identifier hshown]
    cases f.identifier? s with
    | none => exact congrArg _ (ih ..)
    | some name => exact congrArg _ (ih ..)

end

/-- A parameter that is declared with comments in it. -/
structure ParameterCommented (mayHide : Prop) (p p' : Parameter) : Prop where
  optional : p'.optional = p.optional
  rest : p'.rest = p.rest
  name : ¬ mayHide → p'.name = p.name

theorem forall₂_parameterOf {fs fs' : List Formal} {names names' : List String}
    (h : List.Forall₂ (FormalCommented mayHide s s') fs fs')
    (hnames : List.Forall₂ (fun x x' => ¬ mayHide → x' = x) names names') :
    List.Forall₂ (ParameterCommented mayHide) (List.zipWith (parameterOf s) fs names)
      (List.zipWith (parameterOf s') fs' names') := by
  induction h generalizing names names' with
  | nil =>
    rw [List.zipWith_nil_left, List.zipWith_nil_left]
    exact .nil
  | cons hf _ ih =>
    cases hnames with
    | nil => exact .nil
    | cons hx hnames =>
      refine .cons ⟨?_, hf.rest, hx⟩ (ih hnames)
      simp only [parameterOf, hf.kind]

/-- An overload that is declared with comments in it. -/
structure OverloadCommented (mayHide : Prop) (o o' : Overload) : Prop where
  owner : o'.owner = o.owner
  name : o'.name = o.name
  typeParameters : o'.typeParameters.map (·.name) = o.typeParameters.map (·.name)
  parameters : List.Forall₂ (ParameterCommented mayHide) o.parameters o'.parameters

theorem parameters_eq (s : Source) (n : Node) : parameters s n =
    List.zipWith (parameterOf s) (formals n) (formalNames s (identifiers s n) 0 (formals n)) := rfl

namespace Commented

theorem parameters (h : Commented mayHide s s' n n') :
    List.Forall₂ (ParameterCommented mayHide) (parameters s n) (parameters s' n') := by
  have hformals := h.formals
  rw [parameters_eq, parameters_eq]
  refine forall₂_parameterOf hformals ?_
  by_cases hshown : ¬ mayHide
  · rw [identifiers, identifiers, identifiers_commented hformals hshown,
      formalNames_commented hformals hshown]
    exact List.forall₂_same.mpr fun _ _ _ => rfl
  · refine List.forall₂_iff_get.mpr ⟨?_, fun i _ _ h => absurd h hshown⟩
    rw [formalNames_length, formalNames_length, hformals.length_eq]

theorem hides {name name' : Node} (h : Commented mayHide s s' n n')
    (hbefore : n'.start < name'.start ↔ n.start < name.start) :
    hides s' name' n' = hides s name n := by
  have hstart : decide (n'.start < name'.start) = decide (n.start < name.start) :=
    decide_eq_decide.mpr hbefore
  rw [Surface.hides, Surface.hides, h.kind, h.named, hstart]
  congr 1
  cases hk : n.kind == "accessibility_modifier" with
  | false => rfl
  | true => rw [h.text (.inr (.inr (beq_iff_eq.mp hk)))]

end Commented

/-- A class that is found with comments in it. -/
structure BuilderCommented (mayHide : Prop) (b b' : Builder) : Prop where
  name : b'.name = b.name
  node : Commented mayHide b.source b'.source b.node b'.node

section
variable {b b' : Builder} (hb : BuilderCommented mayHide b b')
include hb

theorem declaration_commented {member member' name name' : Node}
    (hmember : Commented mayHide b.source b'.source member member')
    (hname : b'.source.textOf name' = b.source.textOf name) :
    OverloadCommented mayHide (declaration b member name) (declaration b' member' name') := by
  refine ⟨hb.name, hname, ?_, ?_⟩
  · simp only [declaration]
    cases hq : member.child? "type_parameters" with
    | none => rw [hmember.child?_eq_none hq]; rfl
    | some q =>
      obtain ⟨q', hq', hcommented⟩ := hmember.child?_eq_some hq
      rw [hq']
      exact hcommented.typeParameters_names
  · simp only [declaration]
    cases hp : member.child? "parameters" with
    | none =>
      rw [hmember.child?_eq_none hp]
      exact .nil
    | some ps =>
      obtain ⟨ps', hps', hcommented⟩ := hmember.child?_eq_some hp
      rw [hps']
      exact hcommented.parameters

theorem overload?_commented {member member' : Node}
    (hmember : Commented mayHide b.source b'.source member member') :
    Option.Rel (OverloadCommented mayHide) (overload? b member) (overload? b' member') := by
  rw [overload?, overload?, guard_bind_eq, guard_bind_eq, hmember.kind]
  by_cases hmethod : methodKinds.contains member.kind = true
  · rw [if_pos hmethod, if_pos hmethod, Option.bind_eq_bind]
    cases hname : member.child? "name" with
    | none =>
      rw [hmember.child?_eq_none hname]
      exact .none
    | some name =>
      obtain ⟨name', hname', hcommented⟩ := hmember.child?_eq_some hname
      have hfield : name.field = some "name" := by simpa using List.find?_some hname
      have hhidden : member'.children.any (hides b'.source name') =
          member.children.any (hides b.source name) :=
        (hmember.children_around hname hname').any (fun w w' hw => hw.1.hides hw.2) fun c hc => by
          simp [hides, hc.kind, hc.named]
      rw [hname', Option.bind_some, Option.bind_some, guard_bind_eq, guard_bind_eq, guard_bind_eq,
        guard_bind_eq, hcommented.kind, hhidden]
      split
      · split
        · exact .some (declaration_commented hb hmember (hcommented.text (.inl hfield)))
        · exact .none
      · exact .none
  · rw [if_neg hmethod, if_neg hmethod]
    exact .none

theorem members_commented : List.Forall₂ (OverloadCommented mayHide) (members b) (members b') := by
  rw [members, members]
  cases hbody : b.node.child? "body" with
  | none =>
    rw [hb.node.child?_eq_none hbody]
    exact .nil
  | some body =>
    obtain ⟨body', hbody', hcommented⟩ := hb.node.child?_eq_some hbody
    rw [hbody']
    refine hcommented.namedChildren.filterMap (fun m m' hm => overload?_commented hb hm) fun c hc => ?_
    rw [overload?, guard_bind_eq, if_neg (by simp [hc.kind, methodKinds])]

end

namespace Commented

theorem builder? (h : Commented mayHide s s' n n') (allowed : List String) :
    Option.Rel (BuilderCommented mayHide) (builder? allowed s n) (builder? allowed s' n') := by
  have hof : ∀ (s : Source) (n : Node), Surface.builder? allowed s n =
      if classKinds.contains n.kind then ((n.child? "name").map s.textOf).bind fun name =>
        if allowed.contains name then some ⟨name, s, n⟩ else none
      else none := by
    intro s n
    rw [Surface.builder?, guard_bind_eq]
    cases n.child? "name" with
    | none => rfl
    | some t =>
      rw [Option.bind_eq_bind, Option.bind_some, guard_bind_eq]
      rfl
  rw [hof, hof, h.kind, h.name_text]
  split
  · cases (n.child? "name").map s.textOf with
    | none => exact .none
    | some name =>
      rw [Option.bind_some, Option.bind_some]
      split
      · exact .some ⟨rfl, h⟩
      · exact .none
  · exact .none

theorem contributed (h : Commented mayHide s s' n n') (allowed : List String) :
    List.Forall₂ (OverloadCommented mayHide) (contributed allowed s n) (contributed allowed s' n') := by
  have hunwrap := h.unwrap
  rw [Surface.contributed, Surface.contributed]
  generalize Surface.unwrap n = d at hunwrap
  generalize Surface.unwrap n' = d' at hunwrap
  cases hunwrap with
  | none => exact .nil
  | @some d d' hd =>
    have hbuilder := hd.builder? allowed
    rw [Option.bind_some, Option.bind_some]
    generalize Surface.builder? allowed s d = b at hbuilder
    generalize Surface.builder? allowed s' d' = b' at hbuilder
    cases hbuilder with
    | none => exact .nil
    | some hb => exact members_commented hb

end Commented

theorem contributed_comment {c : Node} (hc : IsComment c) (allowed : List String) (s : Source) :
    contributed allowed s c = [] := by
  have hunwrap : unwrap c = some c :=
    unwrap_of_not_wrapper (by simp [isWrapper, wrapperKinds, hc.kind])
  rw [contributed, hunwrap, Option.bind_some, builder?, guard_bind_eq,
    if_neg (by simp [hc.kind, classKinds])]
  rfl

theorem overloads_commented {p p' : Program} (h : ProgramCommented mayHide p p')
    (allowed : List String) :
    List.Forall₂ (OverloadCommented mayHide) (overloads (builders p allowed))
      (overloads (builders p' allowed)) := by
  have hroots : List.Forall₂ (fun s s' => s'.path = s.path ∧ Commented mayHide s s' s.tree s'.tree)
      p.rootSources p'.rootSources := by
    refine List.rel_filter (fun s s' hs => ?_) h.sources
    change p.roots.contains s.path = true ↔ p'.roots.contains s'.path = true
    rw [h.roots, hs.1]
  rw [overloads_builders, overloads_builders]
  refine List.rel_flatMap hroots fun s s' hs => ?_
  exact hs.2.namedChildren.flatMap (fun m m' hm => hm.contributed allowed) fun c hc =>
    contributed_comment hc allowed s'

theorem map_eq_of_forall₂ {α β : Type} {R : α → α → Prop} {f : α → β} {as as' : List α}
    (h : List.Forall₂ R as as') (hf : ∀ a a', R a a' → f a' = f a) : as'.map f = as.map f := by
  induction h with
  | nil => rfl
  | cons ha _ ih => rw [List.map_cons, List.map_cons, hf _ _ ha, ih]

theorem OverloadCommented.untyped_typeParameters {o o' : Overload}
    (h : OverloadCommented mayHide o o') : o'.untyped.typeParameters = o.untyped.typeParameters := by
  have htypes := congrArg (·.map fun name => ({ name } : TypeParameter)) h.typeParameters
  simp only [List.map_map, Function.comp_def] at htypes
  exact htypes

theorem OverloadCommented.untyped {o o' : Overload} (h : OverloadCommented mayHide o o')
    (hshown : ¬ mayHide) : o'.untyped = o.untyped := by
  have hparameters : o'.untyped.parameters = o.untyped.parameters := by
    refine map_eq_of_forall₂ h.parameters fun p p' hp => ?_
    simp only [Parameter.untyped, hp.optional, hp.rest, hp.name hshown]
  rw [Overload.untyped, Overload.untyped, Overload.mk.injEq]
  exact ⟨h.owner, h.name, hparameters, h.untyped_typeParameters, rfl⟩

theorem OverloadCommented.unnamed {o o' : Overload} (h : OverloadCommented mayHide o o') :
    o'.untyped.unnamed = o.untyped.unnamed := by
  have hparameters : o'.untyped.unnamed.parameters = o.untyped.unnamed.parameters := by
    simp only [Overload.unnamed, Overload.untyped, List.map_map]
    refine map_eq_of_forall₂ h.parameters fun p p' hp => ?_
    simp only [Function.comp_apply, Parameter.untyped, Parameter.unnamed, hp.optional, hp.rest]
  rw [Overload.unnamed, Overload.unnamed, Overload.mk.injEq]
  exact ⟨h.owner, h.name, hparameters, h.untyped_typeParameters, rfl⟩

/-- Comments are trivia. Wherever they are put into a program, the same overloads are collected in the
same order, with the same type parameters, and the same parameters with the same flags. Their names are
the same as well, unless a comment stands between the mark of a rest pattern and the identifier that it
binds: that identifier is not seen. -/
theorem comments_are_trivia {p p' : Program} (h : ProgramCommented mayHide p p')
    (allowed : List String) :
    (overloads (builders p' allowed)).map (·.untyped.unnamed) =
        (overloads (builders p allowed)).map (·.untyped.unnamed) ∧
      (¬ mayHide → (overloads (builders p' allowed)).map (·.untyped) =
        (overloads (builders p allowed)).map (·.untyped)) := by
  have hall := overloads_commented h allowed
  exact ⟨map_eq_of_forall₂ hall fun _ _ ho => ho.unnamed,
    fun hshown => map_eq_of_forall₂ hall fun _ _ ho => ho.untyped hshown⟩

/-- A comment behind what a rest pattern binds, and another one before the method. -/
theorem commented_class_collected_alike :
    ProgramCommented (false = true) (classWith "T[]") (commentedClass false) ∧
      (overloads (builders (commentedClass false) ["B"])).map (·.untyped) =
        (overloads (builders (classWith "T[]") ["B"])).map (·.untyped) :=
  have h := commented_commentedClass false
  ⟨h, (comments_are_trivia h ["B"]).2 (by decide)⟩

/-- In the place of its name a placeholder is given to the parameter whose name a comment hides. -/
theorem comment_hides_spread_name :
    ProgramCommented (true = true) (classWith "T[]") (commentedClass true) ∧
      (overloads (builders (classWith "T[]") ["B"])).map (·.parameters.map (·.name)) = [["p"]] ∧
      (overloads (builders (commentedClass true) ["B"])).map (·.parameters.map (·.name)) =
        [["arg0"]] :=
  ⟨commented_commentedClass true, by decide +kernel, by decide +kernel⟩

end Surface
end SchemaWrappers
