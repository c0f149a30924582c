import SchemaWrappers.Proofs.Surface.Exactness
import SchemaWrappers.Proofs.Text.Pieces

/-! The type texts of collected overloads: however they are written in the source, each is a single
line of words with single spaces between them. -/
namespace SchemaWrappers.Surface
open Syntax Text

/-- Some text is there that is not blank, and the only blanks in it are spaces. -/
structure OneLine (text : String) : Prop where
  visible : ∃ c ∈ text.toList, isBlank c = false
  spaces : ∀ c ∈ text.toList, isBlank c = true → c = ' '

theorem oneLine_of_collapsed? {text t : String} (h : collapsed? text = some t) : OneLine t := by
  simp only [collapsed?] at h
  split at h
  · cases h
  · rename_i hne
    obtain rfl := Option.some.inj h
    have hne : collapsed text.toList ≠ [] := by simpa [collapse] using hne
    constructor
    · rw [collapse, String.toList_ofList]
      exact exists_not_blank_of_collapsed hne
    · rw [collapse, String.toList_ofList]
      exact fun c hc hb => eq_space_of_mem_collapsed hc hb

theorem oneLine_of_annotationText {s : Source} {n : Node} {t : String}
    (h : annotationText s n = some t) : OneLine t := by
  unfold annotationText at h
  split at h <;> exact oneLine_of_collapsed? h

theorem oneLine_of_innerTypeText {s : Source} {n : Node} {t : String}
    (h : innerTypeText s n = some t) : OneLine t := by
  obtain ⟨_, -, h⟩ := Option.bind_eq_some_iff.mp h
  exact oneLine_of_collapsed? h

/-- All type texts of an overload are single lines. -/
structure OneLiners (o : Overload) : Prop where
  types : ∀ p ∈ o.parameters, ∀ t ∈ p.type, OneLine t
  bounds : ∀ q ∈ o.typeParameters, ∀ t ∈ q.bound, OneLine t
  fallbacks : ∀ q ∈ o.typeParameters, ∀ t ∈ q.fallback, OneLine t
  returns : ∀ t ∈ o.returns, OneLine t

theorem oneLine_of_mem_parameters {s : Source} {n : Node} {p : Parameter}
    (hp : p ∈ parameters s n) : ∀ t ∈ p.type, OneLine t := by
  rw [parameters, ← List.map_uncurry_zip_eq_zipWith] at hp
  obtain ⟨⟨f, name⟩, -, rfl⟩ := List.mem_map.mp hp
  intro t ht
  obtain ⟨_, -, ht⟩ := Option.bind_eq_some_iff.mp ht
  exact oneLine_of_annotationText ht

theorem oneLine_of_mem_typeParameters {s : Source} {n : Node} {q : TypeParameter}
    (hq : q ∈ typeParameters s n) :
    (∀ t ∈ q.bound, OneLine t) ∧ ∀ t ∈ q.fallback, OneLine t := by
  obtain ⟨c, -, hq⟩ := List.mem_filterMap.mp hq
  obtain ⟨-, hq⟩ := guard_bind_eq_some_iff.mp hq
  obtain ⟨_, -, hq⟩ := Option.bind_eq_some_iff.mp hq
  obtain rfl := Option.some.inj hq
  constructor
  · intro t ht
    obtain ⟨_, -, ht⟩ := Option.bind_eq_some_iff.mp ht
    exact oneLine_of_innerTypeText ht
  · intro t ht
    obtain ⟨_, -, ht⟩ := Option.bind_eq_some_iff.mp ht
    exact oneLine_of_innerTypeText ht

theorem oneLiners_declaration (b : Builder) (member name : Node) :
    OneLiners (declaration b member name) := by
  have hparameters : ∀ p ∈ (declaration b member name).parameters, ∃ n, p ∈ parameters b.source n := by
    intro p hp
    rw [declaration] at hp
    cases hn : member.child? "parameters" with
    | none => simp [hn] at hp
    | some n => exact ⟨n, by simpa [hn] using hp⟩
  have htypes : ∀ q ∈ (declaration b member name).typeParameters,
      ∃ n, q ∈ typeParameters b.source n := by
    intro q hq
    rw [declaration] at hq
    cases hn : member.child? "type_parameters" with
    | none => simp [hn] at hq
    | some n => exact ⟨n, by simpa [hn] using hq⟩
  refine ⟨?_, ?_, ?_, ?_⟩
  · intro p hp
    obtain ⟨n, hp⟩ := hparameters p hp
    exact oneLine_of_mem_parameters hp
  · intro q hq
    obtain ⟨n, hq⟩ := htypes q hq
    exact (oneLine_of_mem_typeParameters hq).1
  · intro q hq
    obtain ⟨n, hq⟩ := htypes q hq
    exact (oneLine_of_mem_typeParameters hq).2
  · intro t ht
    obtain ⟨n, -, ht⟩ := Option.bind_eq_some_iff.mp ht
    exact oneLine_of_annotationText ht

theorem oneLiners_of_mem_overloads {bs : List Builder} {o : Overload} (h : o ∈ overloads bs) :
    OneLiners o := by
  obtain ⟨b, -, ho⟩ := List.mem_flatMap.mp h
  rw [members] at ho
  split at ho
  · obtain ⟨member, -, ho⟩ := List.mem_filterMap.mp ho
    obtain ⟨-, name, -, -, -, -, rfl⟩ := overload?_eq_some_iff.mp ho
    exact oneLiners_declaration b member name
  · cases ho

/-- A program of the class `B` with one method, which takes any number of arguments of a type. -/
def classWith (type : String) : Program where
  sources := [{ path := "b", text, data := Utf8.encode text.toList, tree }]
  roots := ["b"]
where
  text : String := "class B\x7bName<K>(...p:" ++ type ++ "):T\x7d"
  stop : Nat := 21 + (Utf8.encode type.toList).length
  tree : Node := part none "program" 0 (stop + 4) [
    part none "class_declaration" 0 (stop + 4) [
      mark "class" 0 5, part "name" "type_identifier" 6 7 [],
      part "body" "class_body" 7 (stop + 4) [mark "\x7b" 7 8, member,
        mark "\x7d" (stop + 3) (stop + 4)]]]
  member : Node := part none "method_signature" 8 (stop + 3) [
    part "name" "property_identifier" 8 12 [],
    part "type_parameters" "type_parameters" 12 15 [mark "<" 12 13,
      part none "type_parameter" 13 14 [part "name" "type_identifier" 13 14 []], mark ">" 14 15],
    part "parameters" "formal_parameters" 15 (stop + 1) [mark "(" 15 16, parameter,
      mark ")" stop (stop + 1)],
    part "return_type" "type_annotation" (stop + 1) (stop + 3) [mark ":" (stop + 1) (stop + 2),
      part none "type_identifier" (stop + 2) (stop + 3) []]]
  parameter : Node := part none "required_parameter" 16 stop [
    part "pattern" "rest_pattern" 16 20 [mark "..." 16 19, part none "identifier" 19 20 []],
    part "type" "type_annotation" 20 stop [mark ":" 20 21, part none "array_type" 21 stop []]]
  mark (kind : String) (start stop : Nat) : Node := { kind, start, stop, named := false }
  part (field : Option String) (kind : String) (start stop : Nat) (children : List Node) : Node :=
    { kind, start, stop, field, children }

def classMethod (type : String) : Method where
  name := "Name"
  overloads := [{ owner := "B", name := "Name", parameters := [parameter],
                  typeParameters := [{ name := "K" }], returns := some "T" }]
  merged := [parameter]
where
  parameter : Parameter := { name := "p", type := some type, rest := true }

end SchemaWrappers.Surface
