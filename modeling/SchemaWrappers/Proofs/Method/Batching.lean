import Mathlib.Data.List.Infix
import SchemaWrappers.Proofs.Method.Signature

/-! Merging does not depend on how the overloads arrive: only their order counts, and what is merged
early stays at the front of what is merged later. -/
namespace SchemaWrappers.Method
variable {name : String} {m : Method}

theorem seen_isPrefix_overloads (changes : List Change) :
    seen changes <+: changes.flatMap (·.overloads) :=
  List.IsPrefix.flatMap (List.rdropWhile_prefix ..) _

/-- What a merge has seen, all later merges see first. -/
theorem seen_isPrefix_append (changes more : List Change) : seen changes <+: seen (changes ++ more) := by
  induction more using List.reverseRecOn with
  | nil => rw [List.append_nil]
  | append_singleton more c ih =>
    rw [← List.append_assoc]
    cases c with
    | add os =>
      rw [seen_add]
      exact ih
    | merge =>
      rw [seen_merge]
      exact ih.trans (seen_isPrefix_overloads _)

/-- Merged records stay at the front of all that are merged later. -/
theorem merged_isPrefix_after (hm : new name = .ok m) (changes more : List Change) :
    (m.after changes).merged <+: (m.after (changes ++ more)).merged := by
  rw [(holds_after hm changes).merged, (holds_after hm (changes ++ more)).merged]
  exact firstsBy_isPrefix (List.IsPrefix.flatMap (seen_isPrefix_append changes more) _)

theorem after_name (m : Method) (changes : List Change) : (m.after changes).name = m.name := by
  induction changes using List.reverseRecOn with
  | nil => rfl
  | append_singleton changes c ih =>
    rw [after, List.foldl_append, ← ih]
    cases c <;> rfl

theorem after_merge (m : Method) (changes : List Change) :
    m.after (changes ++ [.merge]) = (m.after changes).merge := by
  rw [after, List.foldl_append]
  rfl

/-- A merge gathers the overloads of all additions, however they were made. -/
theorem merge_after_eq (hm : new name = .ok m) (changes : List Change) :
    (m.after changes).merge = (m.add (changes.flatMap (·.overloads))).merge := by
  have hoverloads := (holds_after hm changes).overloads
  have hname := after_name m changes
  obtain ⟨-, rfl⟩ := new_ok hm
  rw [merge, hoverloads, hname]
  rfl

/-- The parameters that a merge pools from overloads: the declared names, each once and in order of
appearance, and of each name the very first record. -/
structure Pools (m : Method) (os : List Overload) : Prop where
  names : m.parameterNames = ((os.flatMap (·.parameters)).map (·.name)).eraseDups
  first : ∀ x, m.parameter x = ((os.flatMap (·.parameters)).find? (·.name == x)).elim
    (.error (.unknownParameter x)) .ok

theorem pools_merge (m : Method) : Pools m.merge m.overloads := by
  refine ⟨merge_parameterNames m, fun x => ?_⟩
  rw [parameter, merge, find?_firstsBy]
  cases (m.overloads.flatMap (·.parameters)).find? (·.name == x) with
  | none => rfl
  | some p => rfl

theorem merge_merge (m : Method) : m.merge.merge = m.merge := rfl

/-- Without an addition right before it, a merge finds nothing to do. -/
theorem merge_after_of_not_add (hm : new name = .ok m) {changes : List Change}
    (h : ∀ c ∈ changes.getLast?, c.isAdd = false) : (m.after changes).merge = m.after changes := by
  rcases List.eq_nil_or_concat changes with rfl | ⟨front, c, rfl⟩
  · obtain ⟨-, rfl⟩ := new_ok hm
    rfl
  · rw [List.concat_eq_append] at h ⊢
    cases c with
    | add os => simpa [Change.isAdd] using h (.add os) (by simp)
    | merge => rw [after_merge, merge_merge]

/-- However additions are batched and wherever merges stand between them, a last merge makes the same
method as one addition of all overloads does. Names merged on the way are at the front of those merged
later, and a merge that no addition comes before changes nothing. -/
theorem merge_ignores_batching (hname : name ≠ "") :
    ∃ m, new name = .ok m ∧ ∀ changes : List Change,
      let os := changes.flatMap (·.overloads)
      m.after (changes ++ [.merge]) = (m.add os).merge ∧ Pools (m.after (changes ++ [.merge])) os ∧
        (∀ front back, changes = front ++ back →
          (m.after front).parameterNames <+: (m.after changes).parameterNames) ∧
        ((∀ c ∈ changes.getLast?, c.isAdd = false) →
          m.after (changes ++ [.merge]) = m.after changes) := by
  have hm : new name = .ok { name } := by
    rw [new, if_neg (by simpa using hname)]
  refine ⟨_, hm, fun changes => ⟨?_, ?_, ?_, ?_⟩⟩
  · rw [after_merge, merge_after_eq hm]
  · rw [after_merge, merge_after_eq hm]
    exact pools_merge _
  · rintro front back rfl
    exact (merged_isPrefix_after hm front back).map _
  · intro h
    rw [after_merge, merge_after_of_not_add hm h]

/-- Both names are declared more than once, with other types and flags; the merges come early. -/
def tupleChanges : List Change :=
  [.add [], .merge,
    .add [{ owner := "Builder", name := "Tuple"
            parameters := [{ name := "types", type := some "T" }, { name := "rest", rest := true }] }],
    .merge, .merge,
    .add [{ owner := "Other", name := "Tuple"
            parameters := [{ name := "options", optional := true },
              { name := "types", type := some "U", optional := true }] }],
    .add [{ owner := "Other", name := "Tuple", parameters := [{ name := "rest" }] }]]

theorem tuple_merged_as_one :
    "Tuple" ≠ "" ∧ ∃ m, new "Tuple" = .ok m ∧
      m.after (tupleChanges ++ [.merge]) =
        (m.add (tupleChanges.flatMap (·.overloads))).merge ∧
      (m.after (tupleChanges ++ [.merge])).parameterNames = ["types", "rest", "options"] ∧
      (m.after (tupleChanges ++ [.merge])).parameter "types" =
        .ok { name := "types", type := some "T" } := by
  have hname : "Tuple" ≠ "" := by decide
  obtain ⟨m, hm, h⟩ := merge_ignores_batching hname
  obtain ⟨hsame, hpools, -, -⟩ := h tupleChanges
  refine ⟨hname, m, hm, hsame, ?_, ?_⟩
  · rw [hpools.names]
    decide
  · rw [hpools.first]
    decide

end SchemaWrappers.Method
