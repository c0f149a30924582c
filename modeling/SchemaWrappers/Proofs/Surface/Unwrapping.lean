import Mathlib.Data.List.Basic
import SchemaWrappers.Surface

namespace SchemaWrappers.Surface
open Syntax

def FirstWith {α : Type} (p : α → Prop) (as : List α) (a : α) : Prop :=
  p a ∧ ∃ front back, as = front ++ a :: back ∧ ∀ b ∈ front, ¬ p b

/-- What a wrapper is put around: its declaration, else its first named part that is neither a
comment nor a decorator. -/
inductive Inner (n m : Node) : Prop where
  | declaration (h : FirstWith (·.field = some "declaration") n.children m)
  | other (hno : ∀ c ∈ n.children, c.field ≠ some "declaration")
      (h : FirstWith (fun c => c.kind ≠ "comment" ∧ c.kind ≠ "decorator") n.namedChildren m)

/-- A node leads to a declaration through wrappers only. -/
inductive Leads : Node → Node → Prop where
  | here {n : Node} (h : n.kind ≠ "export_statement" ∧ n.kind ≠ "ambient_declaration") : Leads n n
  | inside {n m d : Node} (h : n.kind = "export_statement" ∨ n.kind = "ambient_declaration")
      (hi : Inner n m) (hm : Leads m d) : Leads n d

theorem isWrapper_iff {n : Node} :
    isWrapper n = true ↔ n.kind = "export_statement" ∨ n.kind = "ambient_declaration" := by
  simp [isWrapper, wrapperKinds]

private theorem child?_eq_some_iff {n m : Node} {place : String} :
    n.child? place = some m ↔ FirstWith (·.field = some place) n.children m := by
  simp [Node.child?, List.find?_eq_some_iff_append, FirstWith]

private theorem child?_eq_none_iff {n : Node} {place : String} :
    n.child? place = none ↔ ∀ c ∈ n.children, c.field ≠ some place := by
  simp [Node.child?]

theorem inner?_eq_some_iff {n m : Node} : inner? n = some m ↔ Inner n m := by
  unfold inner?
  cases hd : n.child? "declaration" with
  | some d =>
    constructor
    · intro h
      rw [Option.some.injEq] at h
      exact .declaration (child?_eq_some_iff.mp (h ▸ hd))
    · intro h
      cases h with
      | declaration h => rw [← hd, child?_eq_some_iff.mpr h]
      | other hno _ => rw [child?_eq_none_iff.mpr hno] at hd; cases hd
  | none =>
    have hf : n.namedChildren.find? (fun c => c.kind != "comment" && c.kind != "decorator") = some m ↔
        FirstWith (fun c => c.kind ≠ "comment" ∧ c.kind ≠ "decorator") n.namedChildren m := by
      simp [List.find?_eq_some_iff_append, FirstWith, or_iff_not_imp_left]
    constructor
    · intro h
      exact .other (child?_eq_none_iff.mp hd) (hf.mp h)
    · intro h
      cases h with
      | declaration h => rw [child?_eq_some_iff.mpr h] at hd; cases hd
      | other _ h => exact hf.mpr h

theorem unwrap_of_wrapper {n : Node} (h : isWrapper n = true) :
    unwrap n = (inner? n).bind unwrap := by
  rw [unwrap, if_pos h]
  split
  · rename_i m hm
    simp only [hm, Option.bind_some]
  · rename_i hm
    simp only [hm, Option.bind_none]

theorem unwrap_of_not_wrapper {n : Node} (h : ¬ isWrapper n = true) :
    unwrap n = some n := by
  rw [unwrap, if_neg h]

theorem leads_of_unwrap {n d : Node} (h : unwrap n = some d) : Leads n d := by
  induction n using unwrap.induct with
  | case1 n hw m hm _ ih =>
    rw [unwrap_of_wrapper hw, hm, Option.bind_some] at h
    exact .inside (isWrapper_iff.mp hw) (inner?_eq_some_iff.mp hm) (ih h)
  | case2 n hw hm =>
    rw [unwrap_of_wrapper hw, hm] at h
    cases h
  | case3 n hw =>
    rw [unwrap_of_not_wrapper hw, Option.some.injEq] at h
    exact h ▸ .here (not_or.mp fun hk => hw (isWrapper_iff.mpr hk))

theorem unwrap_eq_some_iff {n d : Node} : unwrap n = some d ↔ Leads n d := by
  refine ⟨leads_of_unwrap, ?_⟩
  intro h
  induction h with
  | here h => exact unwrap_of_not_wrapper fun hw => (isWrapper_iff.mp hw).elim h.1 h.2
  | inside h hi _ ih =>
    rw [unwrap_of_wrapper (isWrapper_iff.mpr h), inner?_eq_some_iff.mpr hi, Option.bind_some, ih]

theorem Leads.unique {n d e : Node} (h : Leads n d) (h' : Leads n e) : d = e :=
  Option.some.inj ((unwrap_eq_some_iff.mpr h).symm.trans (unwrap_eq_some_iff.mpr h'))

/-- The second node stands somewhere below the first. -/
inductive Within : Node → Node → Prop where
  | child {n m : Node} (h : m ∈ n.children) : Within n m
  | deeper {n m k : Node} (h : m ∈ n.children) (hm : Within m k) : Within n k

theorem Within.size_lt {n m : Node} (h : Within n m) : m.size < n.size := by
  induction h with
  | child h => exact Node.size_lt_of_mem h
  | deeper h _ ih => exact Nat.lt_trans ih (Node.size_lt_of_mem h)

/-- What is left of a node when wrappers have been taken off so many times. -/
def unwrapped : Nat → Node → Option Node
  | 0, n => some n
  | k + 1, n => if isWrapper n then (inner? n).bind (unwrapped k) else some n

/-- Taking wrappers off is done after no more rounds than there are nodes. -/
theorem unwrapping_ends (n : Node) :
    ∃ k ≤ n.size, unwrapped k n = unwrap n ∧ ∀ d, unwrapped k n = some d → isWrapper d = false := by
  induction n using unwrap.induct with
  | case1 n hw m hm _ ih =>
    obtain ⟨k, hk, he, hd⟩ := ih
    have hlt : m.size < n.size := Node.size_lt_of_mem (inner?_mem hm)
    have hround : unwrapped (k + 1) n = unwrapped k m := by
      rw [unwrapped, if_pos hw, hm, Option.bind_some]
    refine ⟨k + 1, by omega, ?_, hround ▸ hd⟩
    rw [hround, he, unwrap_of_wrapper hw, hm, Option.bind_some]
  | case2 n hw hm =>
    have hround : unwrapped 1 n = none := by rw [unwrapped, if_pos hw, hm, Option.bind_none]
    refine ⟨1, by rw [n.size_eq]; omega, ?_, by simp [hround]⟩
    rw [hround, unwrap_of_wrapper hw, hm, Option.bind_none]
  | case3 n hw =>
    refine ⟨0, Nat.zero_le _, (unwrap_of_not_wrapper hw).symm, ?_⟩
    intro d hd
    rw [unwrapped, Option.some.injEq] at hd
    simpa [← hd] using hw

end SchemaWrappers.Surface
