import Mathlib.Data.List.Basic
import Mathlib.Logic.Function.Iterate
import SchemaWrappers.Syntax.Node

/-! The search for the first fault of a tree: it looks at the nodes in the order of the document, and it
ends when it has looked at all of them. -/
namespace SchemaWrappers.Syntax.Node

/-- A node and all those below it, each before its children, and these from left to right. -/
def preorder : Node → List Node
  | ⟨kind, start, stop, row, named, missing, field, children⟩ =>
    ⟨kind, start, stop, row, named, missing, field, children⟩ :: preorders children
where
  preorders : List Node → List Node
    | [] => []
    | n :: ns => preorder n ++ preorders ns

/-- The first fault by recursion: the node itself, or else the first one below its children. -/
def faultWithin : Node → Option Node
  | ⟨kind, start, stop, row, named, missing, field, children⟩ =>
    let n : Node := ⟨kind, start, stop, row, named, missing, field, children⟩
    if n.isFault then some n else faultAmong children
where
  faultAmong : List Node → Option Node
    | [] => none
    | n :: ns => (faultWithin n).or (faultAmong ns)

theorem preorder_eq (n : Node) : n.preorder = n :: preorder.preorders n.children := by
  cases n
  rw [preorder]

theorem faultWithin_eq (n : Node) :
    n.faultWithin = if n.isFault then some n else faultWithin.faultAmong n.children := by
  cases n
  rw [faultWithin]

theorem preorders_append (ns ms : List Node) :
    preorder.preorders (ns ++ ms) = preorder.preorders ns ++ preorder.preorders ms := by
  induction ns with
  | nil => rfl
  | cons n ns ih => rw [List.cons_append, preorder.preorders, preorder.preorders, ih, List.append_assoc]

/-- Both ways to say what is found first agree. -/
theorem faultWithin_eq_find? (n : Node) : n.faultWithin = n.preorder.find? isFault := by
  refine preorder.induct
    (fun ns => faultWithin.faultAmong ns = (preorder.preorders ns).find? isFault)
    (fun n => n.faultWithin = n.preorder.find? isFault) ?_ rfl ?_ n
  · intro kind start stop row named missing field children ih
    rw [faultWithin_eq, preorder_eq, List.find?_cons, ih]
    cases isFault ⟨kind, start, stop, row, named, missing, field, children⟩ <;> rfl
  · intro n ns ih ihs
    rw [faultWithin.faultAmong, preorder.preorders, List.find?_append, ih, ihs]

/-- What the nodes of a stack come to, the top first. -/
theorem firstFault_eq_find? (stack : List Node) :
    firstFault stack = (preorder.preorders stack).find? isFault := by
  induction stack using firstFault.induct with
  | case1 =>
    rw [firstFault]
    rfl
  | case2 n stack h =>
    rw [firstFault, if_pos h, preorder.preorders, preorder_eq, List.cons_append, List.find?_cons_of_pos h]
  | case3 n stack h ih =>
    rw [firstFault, if_neg h, ih, preorders_append, preorder.preorders, preorder_eq, List.cons_append,
      List.find?_cons_of_neg h]

/-- Where the search stands: at the nodes that are still to be looked at, the last of them first, or at
its end with what it has found. -/
inductive Search where
  | looking (stack : List Node)
  | ended (found : Option Node)

namespace Search

/-- One round: the last node is taken off; if it is no fault, its children come in its place, the first
of them last. -/
def round : Search → Search
  | ended found => ended found
  | looking stack =>
    match stack.getLast? with
    | none => ended none
    | some n =>
      if n.isFault then ended (some n) else looking (stack.dropLast ++ n.children.reverse)

def outcome : Search → Option Node
  | ended found => found
  | looking stack => (preorder.preorders stack.reverse).find? isFault

def left : Search → Nat
  | ended _ => 0
  | looking stack => size.sizes stack + 1

theorem round_concat (stack : List Node) (n : Node) : round (looking (stack ++ [n])) =
    if n.isFault then ended (some n) else looking (stack ++ n.children.reverse) := by
  rw [round]
  simp

theorem sizes_reverse (ns : List Node) : size.sizes ns.reverse = size.sizes ns := by
  induction ns with
  | nil => rfl
  | cons n ns ih =>
    rw [List.reverse_cons, sizes_append, ih]
    simp only [size.sizes]
    omega

theorem outcome_round (s : Search) : s.round.outcome = s.outcome := by
  cases s with
  | ended found => rfl
  | looking stack =>
    rcases List.eq_nil_or_concat stack with rfl | ⟨stack, n, rfl⟩
    · rfl
    · rw [List.concat_eq_append, round_concat, outcome.eq_2, List.reverse_concat, preorder.preorders,
        preorder_eq, List.cons_append]
      split
      · rename_i h
        rw [outcome, List.find?_cons_of_pos h]
      · rename_i h
        rw [outcome, List.reverse_append, List.reverse_reverse, preorders_append,
          List.find?_cons_of_neg h]

/-- Each round leaves fewer of them. -/
theorem left_round (s : Search) : s.round.left ≤ s.left - 1 := by
  cases s with
  | ended found => exact Nat.le_refl 0
  | looking stack =>
    rcases List.eq_nil_or_concat stack with rfl | ⟨stack, n, rfl⟩
    · exact Nat.le_refl 0
    · rw [List.concat_eq_append, round_concat]
      split
      · exact Nat.zero_le _
      · simp only [left, sizes_append, sizes_reverse, size.sizes, n.size_eq]
        omega

theorem outcome_rounds (s : Search) (k : Nat) : (round^[k] s).outcome = s.outcome := by
  induction k generalizing s with
  | zero => rfl
  | succ k ih => rw [Function.iterate_succ_apply, ih, outcome_round]

theorem left_rounds (s : Search) (k : Nat) : (round^[k] s).left ≤ s.left - k := by
  induction k generalizing s with
  | zero => exact Nat.le_refl _
  | succ k ih =>
    have hround := left_round s
    have hrest := ih s.round
    rw [Function.iterate_succ_apply]
    omega

theorem eq_ended_of_left {s : Search} (h : s.left = 0) : s = ended s.outcome := by
  cases s with
  | ended found => rfl
  | looking stack => cases h

end Search

/-- The search ends when it has looked at all nodes at the latest. It finds the first fault in the order
of the document, as the search by recursion does, and the line told is the one of that fault, or of the
tree itself if there is none. -/
theorem fault_found_in_order (n : Node) :
    (∀ rounds, n.size < rounds →
      Search.round^[rounds] (.looking [n]) = .ended (n.preorder.find? isFault)) ∧
    firstFault [n] = n.preorder.find? isFault ∧
    firstFault [n] = n.faultWithin ∧
    n.faultLine = ((n.preorder.find? isFault).getD n).row + 1 := by
  have hsingle : preorder.preorders [n] = n.preorder := List.append_nil _
  have hfirst : firstFault [n] = n.preorder.find? isFault := by rw [firstFault_eq_find?, hsingle]
  refine ⟨fun rounds h => ?_, hfirst, hfirst.trans (faultWithin_eq_find? n).symm, ?_⟩
  · have hleft : (Search.round^[rounds] (.looking [n])).left = 0 := by
      have hrounds := Search.left_rounds (.looking [n]) rounds
      have hsize : (Search.looking [n]).left = n.size + 1 := rfl
      omega
    rw [Search.eq_ended_of_left hleft, Search.outcome_rounds, Search.outcome]
    exact congrArg (fun ms => Search.ended (ms.find? isFault)) hsingle
  · rw [faultLine, hfirst]

end SchemaWrappers.Syntax.Node
