import Mathlib.Data.List.DropRight
import Mathlib.Data.List.Induction
import SchemaWrappers.Proofs.Except
import SchemaWrappers.Proofs.Method.Queries

/-! The signature of a method is a valid parameter list after every change: additions and merges may
come in any order. -/
namespace SchemaWrappers.Method

/-- A change made to a method. -/
inductive Change where
  | add (overloads : List Overload)
  | merge

namespace Change

def apply (m : Method) : Change → Method
  | add os => m.add os
  | merge => m.merge

def isAdd : Change → Bool
  | add _ => true
  | merge => false

def overloads : Change → List Overload
  | add os => os
  | merge => []

end Change

def after (m : Method) (changes : List Change) : Method := changes.foldl Change.apply m

/-- The overloads that the last merge has seen; those added behind it wait for the next one. -/
def seen (changes : List Change) : List Overload :=
  (changes.rdropWhile (·.isAdd)).flatMap (·.overloads)

theorem seen_add (changes : List Change) (os : List Overload) :
    seen (changes ++ [.add os]) = seen changes := by
  rw [seen, List.rdropWhile_concat_pos _ _ _ rfl, seen]

theorem seen_merge (changes : List Change) :
    seen (changes ++ [.merge]) = changes.flatMap (·.overloads) := by
  rw [seen, List.rdropWhile_concat_neg _ _ _ (by simp [Change.isAdd]), List.flatMap_append]
  simp [Change.overloads]

/-- What a method holds after some changes: all overloads, and the parameters of those merged. -/
structure Holds (m : Method) (changes : List Change) : Prop where
  overloads : m.overloads = changes.flatMap (·.overloads)
  merged : m.merged = firstsBy (·.name) ((seen changes).flatMap (·.parameters))

theorem Holds.apply {m : Method} {changes : List Change} (h : Holds m changes) (c : Change) :
    Holds (c.apply m) (changes ++ [c]) := by
  cases c with
  | add os =>
    constructor
    · rw [List.flatMap_append, ← h.overloads]
      simp [Change.apply, add, Change.overloads]
    · rw [seen_add, ← h.merged]
      rfl
  | merge =>
    constructor
    · rw [List.flatMap_append, ← h.overloads]
      simp [Change.apply, merge, Change.overloads]
    · rw [seen_merge, ← h.overloads]
      rfl

theorem holds_after {name : String} {m : Method} (hm : new name = .ok m) (changes : List Change) :
    Holds (m.after changes) changes := by
  obtain ⟨-, rfl⟩ := new_ok hm
  induction changes using List.reverseRecOn with
  | nil => exact ⟨rfl, rfl⟩
  | append_singleton changes c ih =>
    rw [after, List.foldl_append]
    exact ih.apply c

variable {m : Method}

/-- A method whose parameters are those of `os` merged, and whose signature is valid: no name stands
twice in it, all questions about its names are answered, and of its entries only the last can be
spread, which it is where the first declaration takes the remaining arguments. -/
structure ValidSignature (m : Method) (os : List Overload) : Prop where
  distinct : m.parameterNames.Nodup
  known : ∀ x ∈ m.parameterNames,
    (∃ p, m.parameter x = .ok p) ∧ (∃ b, m.isOptional x = .ok b) ∧ ∃ b, m.isRest x = .ok b
  unknown : ∀ x, x ∉ m.parameterNames → m.parameter x = .error (.unknownParameter x) ∧
    m.isOptional x = .error (.unknownParameter x) ∧ m.isRest x = .error (.unknownParameter x)
  rendered : m.parameterNames.mapM (fun x => return if ← m.isRest x then "..." ++ x else x) =
    .ok m.renderedParameters
  length : m.renderedParameters.length = m.parameterNames.length
  front : m.renderedParameters.dropLast = m.parameterNames.dropLast
  last : ∀ x, m.parameterNames.getLast? = some x →
    ∃ p, (os.flatMap (·.parameters)).find? (·.name == x) = some p ∧
      m.renderedParameters.getLast? = some (if p.rest then "..." ++ x else x)

theorem Holds.validSignature {changes : List Change} (h : Holds m changes) :
    ValidSignature m (seen changes) := by
  have hd : m.parameterNames.Nodup := by
    rw [parameterNames, h.merged]
    exact firstsBy_keys_nodup _
  have hknown : ∀ x ∈ m.parameterNames, ∃ p, m.parameter x = .ok p := by
    intro x hx
    obtain ⟨p, hp⟩ := parameter_of_mem hx
    exact ⟨p, parameter_of_find? hp⟩
  refine ⟨hd, ?_, ?_, ?_, ?_, ?_, ?_⟩
  · intro x hx
    obtain ⟨p, hp⟩ := hknown x hx
    exact ⟨⟨p, hp⟩, ⟨_, isOptional_of_parameter hp⟩, ⟨_, isRest_of_parameter hp⟩⟩
  · intro x hx
    have hp := parameter_of_not_mem hx
    refine ⟨hp, ?_, ?_⟩
    · rw [isOptional, hp]
      rfl
    · rw [isRest, hp]
      rfl
  · apply mapM_ok
    intro x hx
    obtain ⟨p, hp⟩ := hknown x hx
    rw [rendered_of_isRest (isRest_of_parameter hp), isRest_of_parameter hp]
    rfl
  · rw [renderedParameters, List.length_map]
  · rcases List.eq_nil_or_concat m.parameterNames with hn | ⟨xs, z, hn⟩
    · rw [renderedParameters, hn]
      rfl
    · rw [List.concat_eq_append] at hn
      rw [renderedParameters_append hn hd, hn, List.dropLast_concat, List.dropLast_concat]
  · intro x hx
    obtain ⟨p, hp⟩ := parameter_of_mem (List.mem_of_getLast? hx)
    refine ⟨p, ?_, ?_⟩
    · rw [← hp, h.merged, find?_firstsBy]
    · rw [renderedParameters, List.getLast?_map, hx, Option.map_some,
        rendered_of_isRest (isRest_of_parameter (parameter_of_find? hp)), hx]
      simp

/-- A method with a name has a valid signature after any changes. -/
theorem signature_valid_after {name : String} (hn : name ≠ "") :
    ∃ m, new name = .ok m ∧ ∀ changes, ValidSignature (m.after changes) (seen changes) := by
  have hm : new name = .ok { name } := by
    rw [new, if_neg (by simpa using hn)]
  exact ⟨_, hm, fun changes => (holds_after hm changes).validSignature⟩

/-- The second overload is added behind the merge, so the spread still closes the signature. -/
def unionChanges : List Change :=
  [.add [{ owner := "Builder", name := "Union"
           parameters := [{ name := "first" }, { name := "schemas", rest := true }] }],
    .merge,
    .add [{ owner := "Builder", name := "Union"
            parameters := [{ name := "schemas" }, { name := "options", optional := true }] }]]

theorem union_signature_valid :
    "Union" ≠ "" ∧ ∃ m, new "Union" = .ok m ∧
      ValidSignature (m.after unionChanges) (seen unionChanges) ∧
      (m.after unionChanges).renderedParameters = ["first", "...schemas"] := by
  have hn : "Union" ≠ "" := by decide
  obtain ⟨m, hm, hvalid⟩ := signature_valid_after hn
  refine ⟨hn, m, hm, hvalid unionChanges, ?_⟩
  obtain ⟨-, rfl⟩ := new_ok hm
  decide

end SchemaWrappers.Method
