import Mathlib.Data.List.Forall2
import SchemaWrappers.Proofs.Surface.Texts
import SchemaWrappers.Proofs.Surface.Unwrapping

/-! Trees that differ by comments: the same nodes in the same order, with comments put in anywhere among
their children. -/
namespace SchemaWrappers.Surface
open Syntax

/-- A comment as it stands among the children of a node: named, and in no particular place. -/
structure IsComment (n : Node) : Prop where
  kind : n.kind = "comment"
  named : n.named = true
  field : n.field = none

/-- The second list is the first with comments put in. -/
inductive Interspersed : List Node → List Node → Prop where
  | nil : Interspersed [] []
  | comment {c : Node} {ns ns' : List Node} (h : IsComment c) (rest : Interspersed ns ns') :
      Interspersed ns (c :: ns')
  | kept (n : Node) {ns ns' : List Node} (rest : Interspersed ns ns') : Interspersed (n :: ns) (n :: ns')

namespace Interspersed
variable {ns ns' : List Node} (h : Interspersed ns ns')
include h

theorem filter_named : Interspersed (ns.filter (·.named)) (ns'.filter (·.named)) := by
  induction h with
  | nil => exact .nil
  | comment hc _ ih =>
    rw [List.filter_cons_of_pos hc.named]
    exact .comment hc ih
  | kept n _ ih =>
    cases hn : n.named with
    | false => simpa [hn] using ih
    | true => simpa [hn] using ih.kept n

theorem find? {p : Node → Bool} (hp : ∀ c, IsComment c → p c = false) : ns'.find? p = ns.find? p := by
  induction h with
  | nil => rfl
  | comment hc _ ih => rw [List.find?_cons, hp _ hc, ih]
  | kept n _ ih => rw [List.find?_cons, List.find?_cons, ih]

theorem any {p : Node → Bool} (hp : ∀ c, IsComment c → p c = false) : ns'.any p = ns.any p := by
  induction h with
  | nil => rfl
  | comment hc _ ih => rw [List.any_cons, hp _ hc, Bool.false_or, ih]
  | kept n _ ih => rw [List.any_cons, List.any_cons, ih]

theorem flatMap {β : Type} {f : Node → List β} (hf : ∀ c, IsComment c → f c = []) :
    ns'.flatMap f = ns.flatMap f := by
  induction h with
  | nil => rfl
  | comment hc _ ih => rw [List.flatMap_cons, hf _ hc, List.nil_append, ih]
  | kept n _ ih => rw [List.flatMap_cons, List.flatMap_cons, ih]

/-- A comment comes first, or what came first does so still. -/
theorem head? : (∃ c ∈ ns'.head?, IsComment c) ∨ ns'.head? = ns.head? := by
  cases h with
  | nil => exact .inr rfl
  | comment hc _ => exact .inl ⟨_, rfl, hc⟩
  | kept n _ => exact .inr rfl

end Interspersed

/-- Nodes, and what has become of them among comments. -/
def Kept (R : Node → Node → Prop) (ns ns' : List Node) : Prop :=
  ∃ kept, List.Forall₂ R ns kept ∧ Interspersed kept ns'

namespace Kept
variable {R : Node → Node → Prop} {ns ns' : List Node} {p p' : Node → Bool}

theorem filter_named (h : Kept R ns ns') (hR : ∀ m m', R m m' → m'.named = m.named) :
    Kept R (ns.filter (·.named)) (ns'.filter (·.named)) := by
  obtain ⟨kept, hkept, hin⟩ := h
  refine ⟨_, List.rel_filter ?_ hkept, hin.filter_named⟩
  intro m m' hm
  exact (congrArg (· = true) (hR m m' hm).symm).to_iff

theorem find? (h : Kept R ns ns') (hR : ∀ m m', R m m' → p' m' = p m)
    (hc : ∀ c, IsComment c → p' c = false) : Option.Rel R (ns.find? p) (ns'.find? p') := by
  obtain ⟨kept, hkept, hin⟩ := h
  rw [hin.find? hc]
  clear hin
  induction hkept with
  | nil => exact .none
  | @cons m m' ms ms' hm _ ih =>
    rw [List.find?_cons, List.find?_cons, hR m m' hm]
    cases p m with
    | false => exact ih
    | true => exact .some hm

theorem any (h : Kept R ns ns') (hR : ∀ m m', R m m' → p' m' = p m)
    (hc : ∀ c, IsComment c → p' c = false) : ns'.any p' = ns.any p := by
  obtain ⟨kept, hkept, hin⟩ := h
  rw [hin.any hc]
  clear hin
  induction hkept with
  | nil => rfl
  | @cons m m' ms ms' hm _ ih => rw [List.any_cons, List.any_cons, hR m m' hm, ih]

variable {β : Type} {Q : β → β → Prop}

theorem flatMap {f f' : Node → List β} (h : Kept R ns ns')
    (hR : ∀ m m', R m m' → List.Forall₂ Q (f m) (f' m')) (hc : ∀ c, IsComment c → f' c = []) :
    List.Forall₂ Q (ns.flatMap f) (ns'.flatMap f') := by
  obtain ⟨kept, hkept, hin⟩ := h
  rw [hin.flatMap hc]
  exact List.rel_flatMap hkept fun m m' hm => hR m m' hm

theorem filterMap {f f' : Node → Option β} (h : Kept R ns ns')
    (hR : ∀ m m', R m m' → Option.Rel Q (f m) (f' m')) (hc : ∀ c, IsComment c → f' c = none) :
    List.Forall₂ Q (ns.filterMap f) (ns'.filterMap f') := by
  rw [List.filterMap_eq_flatMap_toList, List.filterMap_eq_flatMap_toList]
  refine h.flatMap (fun m m' hm => ?_) fun c hcomment => by rw [hc c hcomment, Option.toList_none]
  have hrel := hR m m' hm
  generalize f m = b at hrel
  generalize f' m' = b' at hrel
  cases hrel with
  | none => exact .nil
  | some hq => exact .cons hq .nil

end Kept

/-- The text of such a node is read: it is a name, or a word that grants access. -/
def IsRead (n : Node) : Prop :=
  n.field = some "name" ∨ n.kind = "identifier" ∨ n.kind = "accessibility_modifier"

instance : DecidablePred IsRead := fun _ => inferInstanceAs (Decidable (_ ∨ _ ∨ _))

/-- In the second rest pattern of a parameter a comment stands before what is an identifier in the
first. -/
structure HidesBinding (n n' : Node) : Prop where
  kind : n.kind = "rest_pattern"
  field : n.field = some "pattern"
  identifier : ∃ b ∈ n.namedChildren.head?, b.kind = "identifier"
  comment : ∃ c ∈ n'.namedChildren.head?, IsComment c

/-- The second tree is the first with comments put in. All nodes of the first keep their kinds, their
places and their order, and those that are read keep their texts. Only if `mayHide`, a comment may hide
what the rest pattern of a parameter binds. -/
inductive Commented (mayHide : Prop) (s s' : Source) : Node → Node → Prop where
  | intro {n n' : Node} {kept : List Node} (kind : n'.kind = n.kind) (named : n'.named = n.named)
      (field : n'.field = n.field) (text : IsRead n → s'.textOf n' = s.textOf n)
      (binding : HidesBinding n n' → mayHide)
      (each : List.Forall₂ (Commented mayHide s s') n.children kept)
      (order : ∀ x ∈ n.children.zip kept, ∀ y ∈ n.children.zip kept,
        x.2.start < y.2.start ↔ x.1.start < y.1.start)
      (after : Interspersed kept n'.children) : Commented mayHide s s' n n'

namespace Commented
variable {mayHide : Prop} {s s' : Source} {n n' : Node}

theorem kind (h : Commented mayHide s s' n n') : n'.kind = n.kind := by
  cases h; assumption

theorem named (h : Commented mayHide s s' n n') : n'.named = n.named := by
  cases h; assumption

theorem field (h : Commented mayHide s s' n n') : n'.field = n.field := by
  cases h; assumption

theorem text (h : Commented mayHide s s' n n') (hn : IsRead n) : s'.textOf n' = s.textOf n := by
  cases h with
  | intro _ _ _ text => exact text hn

theorem binding (h : Commented mayHide s s' n n') (hb : HidesBinding n n') : mayHide := by
  cases h with
  | intro _ _ _ _ binding => exact binding hb

theorem children (h : Commented mayHide s s' n n') :
    Kept (Commented mayHide s s') n.children n'.children := by
  cases h with
  | intro _ _ _ _ _ each _ after => exact ⟨_, each, after⟩

theorem namedChildren (h : Commented mayHide s s' n n') :
    Kept (Commented mayHide s s') n.namedChildren n'.namedChildren :=
  h.children.filter_named fun _ _ hm => hm.named

/-- What stands in a place is found there again. -/
theorem child? (h : Commented mayHide s s' n n') (place : String) :
    Option.Rel (Commented mayHide s s') (n.child? place) (n'.child? place) := by
  refine h.children.find? (fun m m' hm => by rw [hm.field]) fun c hc => ?_
  rw [hc.field]
  rfl

theorem child?_eq_none (h : Commented mayHide s s' n n') {place : String}
    (hm : n.child? place = none) : n'.child? place = none := by
  have hrel := h.child? place
  rw [hm] at hrel
  generalize n'.child? place = m' at hrel
  cases hrel
  rfl

theorem child?_eq_some (h : Commented mayHide s s' n n') {place : String} {m : Node}
    (hm : n.child? place = some m) :
    ∃ m', n'.child? place = some m' ∧ Commented mayHide s s' m m' := by
  have hrel := h.child? place
  rw [hm] at hrel
  generalize n'.child? place = m' at hrel
  cases hrel with
  | some h => exact ⟨_, rfl, h⟩

private theorem mem_zip_of_find? {R : Node → Node → Prop} {ns ns' : List Node} {p : Node → Bool}
    (h : List.Forall₂ R ns ns') (hp : ∀ m m', R m m' → p m' = p m) {m m' : Node}
    (hm : ns.find? p = some m) (hm' : ns'.find? p = some m') : (m, m') ∈ ns.zip ns' := by
  induction h with
  | nil => cases hm
  | @cons k k' ks ks' hk _ ih =>
    rw [List.find?_cons] at hm hm'
    rw [hp k k' hk] at hm'
    rw [List.zip_cons_cons, List.mem_cons]
    cases hx : p k with
    | true =>
      simp only [hx, Option.some.injEq] at hm hm'
      exact .inl (by rw [hm, hm'])
    | false =>
      simp only [hx] at hm hm'
      exact .inr (ih hm hm')

theorem children_around (h : Commented mayHide s s' n n') {place : String} {m m' : Node}
    (hm : n.child? place = some m) (hm' : n'.child? place = some m') :
    Kept (fun w w' => Commented mayHide s s' w w' ∧ (w'.start < m'.start ↔ w.start < m.start))
      n.children n'.children := by
  cases h with
  | intro _ _ _ _ _ each order after =>
    rw [Node.child?, after.find? fun c hc => by rw [hc.field]; rfl] at hm'
    have hin := mem_zip_of_find? each (fun k k' hk => by rw [hk.field]) hm hm'
    obtain ⟨hlength, hzip⟩ := List.forall₂_iff_zip.mp each
    refine ⟨_, List.forall₂_iff_zip.mpr ⟨hlength, fun hx => ⟨hzip hx, ?_⟩⟩, after⟩
    exact order _ hx _ hin

/-- Comments are passed over to what a wrapper is put around. -/
theorem inner? (h : Commented mayHide s s' n n') :
    Option.Rel (Commented mayHide s s') (inner? n) (inner? n') := by
  have hfirst : Option.Rel (Commented mayHide s s')
      (n.namedChildren.find? fun c => c.kind != "comment" && c.kind != "decorator")
      (n'.namedChildren.find? fun c => c.kind != "comment" && c.kind != "decorator") :=
    h.namedChildren.find? (fun m m' hm => by rw [hm.kind]) fun c hc => by simp [hc.kind]
  rw [Surface.inner?, Surface.inner?]
  cases hd : n.child? "declaration" with
  | none =>
    rw [h.child?_eq_none hd]
    exact hfirst
  | some d =>
    obtain ⟨d', hd', hcommented⟩ := h.child?_eq_some hd
    rw [hd']
    exact .some hcommented

theorem unwrap (h : Commented mayHide s s' n n') :
    Option.Rel (Commented mayHide s s') (unwrap n) (unwrap n') := by
  have hwrapper : ∀ {m m' : Node}, Commented mayHide s s' m m' → isWrapper m' = isWrapper m := by
    intro m m' hm
    rw [isWrapper, isWrapper, hm.kind]
  induction n using unwrap.induct generalizing n' with
  | case1 n hw m hm _ ih =>
    have hinner := h.inner?
    rw [unwrap_of_wrapper hw, unwrap_of_wrapper ((hwrapper h).trans hw)]
    rw [hm] at hinner ⊢
    generalize Surface.inner? n' = m' at hinner ⊢
    cases hinner with
    | some hm' => exact ih hm'
  | case2 n hw hm =>
    have hinner := h.inner?
    rw [unwrap_of_wrapper hw, unwrap_of_wrapper ((hwrapper h).trans hw)]
    rw [hm] at hinner ⊢
    generalize Surface.inner? n' = m' at hinner ⊢
    cases hinner
    exact .none
  | case3 n hw =>
    rw [unwrap_of_not_wrapper hw, unwrap_of_not_wrapper ((hwrapper h).symm ▸ hw)]
    exact .some h

end Commented

/-- The second program is the first with comments put into its sources. -/
structure ProgramCommented (mayHide : Prop) (p p' : Program) : Prop where
  roots : p'.roots = p.roots
  sources : List.Forall₂ (fun s s' => s'.path = s.path ∧ Commented mayHide s s' s.tree s'.tree)
    p.sources p'.sources

section
open classWith (mark part)
variable {mayHide : Prop} {s s' : Source} {n n' : Node}

/-- The class with a method of any number of arguments, a comment before the method, and another one
that either hides the name of the parameter or stands behind it. -/
def commentedClass (hidden : Bool) : Program where
  sources := [{ path := "b", text, data := Utf8.encode text.toList, tree }]
  roots := ["b"]
where
  text : String :=
    "class B\x7b/**/Name<K>(..." ++ (if hidden then "/**/p" else "p/**/") ++ ":T[]):T\x7d"
  tree : Node := part none "program" 0 36 [
    part none "class_declaration" 0 36 [
      mark "class" 0 5, part "name" "type_identifier" 6 7 [],
      part "body" "class_body" 7 36 [mark "\x7b" 7 8, comment 8, member, mark "\x7d" 35 36]]]
  comment (start : Nat) : Node := part none "comment" start (start + 4) []
  member : Node := part none "method_signature" 12 35 [
    part "name" "property_identifier" 12 16 [],
    part "type_parameters" "type_parameters" 16 19 [mark "<" 16 17,
      part none "type_parameter" 17 18 [part "name" "type_identifier" 17 18 []], mark ">" 18 19],
    part "parameters" "formal_parameters" 19 33 [mark "(" 19 20, parameter, mark ")" 32 33],
    part "return_type" "type_annotation" 33 35 [mark ":" 33 34,
      part none "type_identifier" 34 35 []]]
  parameter : Node :=
    if hidden then
      part none "required_parameter" 20 32 [
        part "pattern" "rest_pattern" 20 28 [mark "..." 20 23, comment 23,
          part none "identifier" 27 28 []],
        type]
    else
      part none "required_parameter" 20 32 [
        part "pattern" "rest_pattern" 20 24 [mark "..." 20 23, part none "identifier" 23 24 []],
        comment 24, type]
  type : Node := part "type" "type_annotation" 28 32 [mark ":" 28 29, part none "array_type" 29 32 []]

private theorem isComment_comment (start : Nat) : IsComment (commentedClass.comment start) :=
  ⟨rfl, rfl, rfl⟩

/-- A node below which there is none to put a comment to. -/
private theorem commented_leaf (hn : n.children = [] ∧ n'.children = [])
    (h : n'.kind = n.kind ∧ n'.named = n.named ∧ n'.field = n.field)
    (text : IsRead n → s'.textOf n' = s.textOf n) : Commented mayHide s s' n n' := by
  have hbinding : HidesBinding n n' → mayHide := by
    rintro ⟨-, -, ⟨b, hb, -⟩, -⟩
    simp [Node.namedChildren, hn.1] at hb
  refine .intro h.1 h.2.1 h.2.2 text hbinding (by rw [hn.1]; exact .nil) (by simp [hn.1]) ?_
  rw [hn.2]
  exact .nil

private theorem commented_unread (hn : n.children = [] ∧ n'.children = [])
    (h : n'.kind = n.kind ∧ n'.named = n.named ∧ n'.field = n.field) (hread : ¬ IsRead n) :
    Commented mayHide s s' n n' :=
  commented_leaf hn h fun h => absurd h hread

private theorem commented_part {kept : List Node}
    (h : n'.kind = n.kind ∧ n'.named = n.named ∧ n'.field = n.field)
    (hread : ¬ IsRead n ∧ n.kind ≠ "rest_pattern")
    (order : ∀ x ∈ n.children.zip kept, ∀ y ∈ n.children.zip kept,
      x.2.start < y.2.start ↔ x.1.start < y.1.start)
    (each : List.Forall₂ (Commented mayHide s s') n.children kept)
    (after : Interspersed kept n'.children) : Commented mayHide s s' n n' :=
  .intro h.1 h.2.1 h.2.2 (fun h => absurd h hread.1) (fun h => absurd h.kind hread.2) each order after

private theorem commented_parameter (hidden : Bool) {s s' : Source}
    (hs : (classWith "T[]").sources = [s]) (hs' : (commentedClass hidden).sources = [s']) :
    Commented (hidden = true) s s' (classWith.parameter "T[]") (commentedClass.parameter hidden) := by
  have htype : Commented (hidden = true) s s' (part "type" "type_annotation" 20 24
      [mark ":" 20 21, part none "array_type" 21 24 []]) commentedClass.type := by
    refine commented_part ⟨rfl, rfl, rfl⟩ (by decide) (by decide) (.cons ?_ (.cons ?_ .nil))
      (.kept _ (.kept _ .nil))
    all_goals exact commented_unread ⟨rfl, rfl⟩ ⟨rfl, rfl, rfl⟩ (by decide)
  obtain rfl := (List.cons.inj hs).1
  obtain rfl := (List.cons.inj hs').1
  cases hidden with
  | false =>
    refine commented_part ⟨rfl, rfl, rfl⟩ (by decide) (by decide) (.cons ?_ (.cons htype .nil))
      (.kept _ (.comment (isComment_comment _) (.kept _ .nil)))
    refine .intro rfl rfl rfl (by decide) ?_ (.cons ?_ (.cons ?_ .nil)) (by decide)
      (.kept _ (.kept _ .nil))
    · rintro ⟨-, -, -, c, hc, hcomment⟩
      obtain rfl := Option.mem_some_iff.mp hc
      exact absurd hcomment.kind (by decide)
    · exact commented_unread ⟨rfl, rfl⟩ ⟨rfl, rfl, rfl⟩ (by decide)
    · exact commented_leaf ⟨rfl, rfl⟩ ⟨rfl, rfl, rfl⟩ (by decide +kernel)
  | true =>
    refine commented_part ⟨rfl, rfl, rfl⟩ (by decide) (by decide) (.cons ?_ (.cons htype .nil))
      (.kept _ (.kept _ .nil))
    refine .intro rfl rfl rfl (by decide) (fun _ => rfl) (.cons ?_ (.cons ?_ .nil)) (by decide)
      (.kept _ (.comment (isComment_comment _) (.kept _ .nil)))
    · exact commented_unread ⟨rfl, rfl⟩ ⟨rfl, rfl, rfl⟩ (by decide)
    · exact commented_leaf ⟨rfl, rfl⟩ ⟨rfl, rfl, rfl⟩ (by decide +kernel)

private theorem commented_member (hidden : Bool) {s s' : Source}
    (hs : (classWith "T[]").sources = [s]) (hs' : (commentedClass hidden).sources = [s']) :
    Commented (hidden = true) s s' (classWith.member "T[]") (commentedClass.member hidden) := by
  have hparameter := commented_parameter hidden hs hs'
  obtain rfl := (List.cons.inj hs).1
  obtain rfl := (List.cons.inj hs').1
  refine commented_part ⟨rfl, rfl, rfl⟩ (by decide) (by cases hidden <;> decide)
    (.cons ?name (.cons ?types (.cons ?parameters (.cons ?returns .nil))))
    (.kept _ (.kept _ (.kept _ (.kept _ .nil))))
  case name =>
    exact commented_leaf ⟨rfl, rfl⟩ ⟨rfl, rfl, rfl⟩ (by cases hidden <;> decide +kernel)
  case types =>
    refine commented_part ⟨rfl, rfl, rfl⟩ (by decide) (by decide)
      (.cons ?_ (.cons ?type (.cons ?_ .nil))) (.kept _ (.kept _ (.kept _ .nil)))
    case type =>
      refine commented_part ⟨rfl, rfl, rfl⟩ (by decide) (by decide) (.cons ?_ .nil) (.kept _ .nil)
      exact commented_leaf ⟨rfl, rfl⟩ ⟨rfl, rfl, rfl⟩ (by cases hidden <;> decide +kernel)
    all_goals exact commented_unread ⟨rfl, rfl⟩ ⟨rfl, rfl, rfl⟩ (by decide)
  case parameters =>
    refine commented_part ⟨rfl, rfl, rfl⟩ (by decide) (by cases hidden <;> decide)
      (.cons ?_ (.cons hparameter (.cons ?_ .nil))) (.kept _ (.kept _ (.kept _ .nil)))
    all_goals exact commented_unread ⟨rfl, rfl⟩ ⟨rfl, rfl, rfl⟩ (by decide)
  case returns =>
    refine commented_part ⟨rfl, rfl, rfl⟩ (by decide) (by decide) (.cons ?_ (.cons ?_ .nil))
      (.kept _ (.kept _ .nil))
    all_goals exact commented_unread ⟨rfl, rfl⟩ ⟨rfl, rfl, rfl⟩ (by decide)

theorem commented_commentedClass (hidden : Bool) :
    ProgramCommented (hidden = true) (classWith "T[]") (commentedClass hidden) := by
  refine ⟨rfl, .cons ⟨rfl, ?_⟩ .nil⟩
  refine commented_part ⟨rfl, rfl, rfl⟩ (by decide) (by cases hidden <;> decide) (.cons ?_ .nil)
    (.kept _ .nil)
  refine commented_part ⟨rfl, rfl, rfl⟩ (by decide) (by cases hidden <;> decide)
    (.cons ?_ (.cons ?name (.cons ?body .nil))) (.kept _ (.kept _ (.kept _ .nil)))
  case name =>
    exact commented_leaf ⟨rfl, rfl⟩ ⟨rfl, rfl, rfl⟩ (by cases hidden <;> decide +kernel)
  case body =>
    refine commented_part ⟨rfl, rfl, rfl⟩ (by decide) (by cases hidden <;> decide)
      (.cons ?_ (.cons (commented_member hidden rfl rfl) (.cons ?_ .nil)))
      (.kept _ (.comment (isComment_comment _) (.kept _ (.kept _ .nil))))
    all_goals exact commented_unread ⟨rfl, rfl⟩ ⟨rfl, rfl, rfl⟩ (by decide)
  exact commented_unread ⟨rfl, rfl⟩ ⟨rfl, rfl, rfl⟩ (by decide)

end

end SchemaWrappers.Surface
