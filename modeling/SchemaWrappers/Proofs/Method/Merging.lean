import SchemaWrappers.Method
import SchemaWrappers.Proofs.Firsts

/-! Merged parameters: their names are the declared ones, each once, and all but the last are
rendered bare. -/
namespace SchemaWrappers.Method
variable {m : Method}

theorem new_ok {name : String} (h : new name = .ok m) : name ≠ "" ∧ m = { name } := by
  unfold new at h
  split at h
  · cases h
  · rename_i hn
    simp only [Except.ok.injEq] at h
    exact ⟨fun he => hn (by simp [he]), h.symm⟩

theorem merge_parameterNames (m : Method) :
    m.merge.parameterNames = ((m.overloads.flatMap (·.parameters)).map (·.name)).eraseDups :=
  firstsBy_keys _

theorem merge_parameterNames_nodup (m : Method) : m.merge.parameterNames.Nodup :=
  firstsBy_keys_nodup _

theorem mem_merge_parameterNames {x : String} :
    x ∈ m.merge.parameterNames ↔ ∃ o ∈ m.overloads, ∃ p ∈ o.parameters, p.name = x := by
  rw [merge_parameterNames, List.mem_eraseDups]
  simp only [List.mem_map, List.mem_flatMap]
  constructor
  · rintro ⟨p, ⟨o, ho, hp⟩, hx⟩
    exact ⟨o, ho, p, hp, hx⟩
  · rintro ⟨o, ho, p, hp, hx⟩
    exact ⟨p, ⟨o, ho, hp⟩, hx⟩

theorem mem_overloads_of_mem_merge {p : Parameter} (h : p ∈ m.merge.merged) :
    ∃ o ∈ m.overloads, p ∈ o.parameters :=
  List.mem_flatMap.mp (mem_of_mem_firstsBy h)

/-- The merged list is at least as long as that of any overload without repeated names. -/
theorem length_le_merge {o : Overload} (ho : o ∈ m.overloads)
    (hd : (o.parameters.map (·.name)).Nodup) :
    o.parameters.length ≤ m.merge.parameterNames.length := by
  have hs : o.parameters.map (·.name) ⊆ m.merge.parameterNames := by
    intro x hx
    obtain ⟨p, hp, he⟩ := List.mem_map.mp hx
    exact mem_merge_parameterNames.mpr ⟨o, ho, p, hp, he⟩
  simpa using hd.length_le_of_subset hs

theorem rendered_cases (m : Method) (x : String) : m.rendered x = x ∨ m.rendered x = "..." ++ x := by
  unfold rendered
  split
  · exact Or.inr rfl
  · exact Or.inl rfl

/-- Only the closing name can be spread. -/
theorem rendered_of_ne_last {x : String} (h : m.parameterNames.getLast? ≠ some x) :
    m.rendered x = x := by
  unfold rendered isRest
  cases m.parameter x with
  | error e => rfl
  | ok p => simp [pure, Except.pure, bind, Except.bind, h]

/-- Where no name is repeated, the signature is the bare names but for the last entry. -/
theorem renderedParameters_append {xs : List String} {z : String}
    (hn : m.parameterNames = xs ++ [z]) (hd : m.parameterNames.Nodup) :
    m.renderedParameters = xs ++ [m.rendered z] := by
  rw [renderedParameters, hn, List.map_append, List.map_singleton]
  rw [hn] at hd
  have hz : z ∉ xs := fun hz => (List.nodup_append.mp hd).2.2 z hz z (List.mem_singleton.mpr rfl) rfl
  have hx : ∀ x ∈ xs, m.rendered x = x := by
    intro x hx
    apply rendered_of_ne_last
    rw [hn, List.getLast?_concat, ne_eq, Option.some.injEq]
    rintro rfl
    exact hz hx
  rw [List.map_congr_left hx, List.map_id']

end SchemaWrappers.Method
