import SchemaWrappers.Proofs.Method.Merging

namespace SchemaWrappers.Method
variable {m : Method} {x : String}

theorem parameter_of_find? {p : Parameter} (h : m.merged.find? (·.name == x) = some p) :
    m.parameter x = .ok p := by
  rw [parameter, h]

theorem parameter_of_mem (h : x ∈ m.parameterNames) :
    ∃ p, m.merged.find? (·.name == x) = some p := by
  obtain ⟨p, hp, rfl⟩ := List.mem_map.mp h
  rw [← Option.isSome_iff_exists, List.find?_isSome]
  exact ⟨p, hp, by simp⟩

/-- Where no name is repeated, a merged parameter is found by its name. -/
theorem parameter_of_mem_merged (hd : m.parameterNames.Nodup) {p : Parameter} (hp : p ∈ m.merged) :
    m.parameter p.name = .ok p := by
  obtain ⟨q, hq⟩ := parameter_of_mem (List.mem_map_of_mem hp)
  have hname : q.name = p.name := by simpa using List.find?_some hq
  have hqp : q = p := List.inj_on_of_nodup_map hd (List.mem_of_find?_eq_some hq) hp hname
  exact parameter_of_find? (hqp ▸ hq)

theorem mem_merged_of_parameter {p : Parameter} (h : m.parameter x = .ok p) : p ∈ m.merged := by
  rw [parameter] at h
  split at h
  · rename_i hfound
    obtain rfl := Except.ok.inj h
    exact List.mem_of_find?_eq_some hfound
  · cases h

theorem parameter_of_not_mem (h : x ∉ m.parameterNames) :
    m.parameter x = .error (.unknownParameter x) := by
  have hnone : m.merged.find? (·.name == x) = none := by
    rw [List.find?_eq_none]
    intro p hp he
    exact h (List.mem_map.mpr ⟨p, hp, by simpa using he⟩)
  rw [parameter, hnone]

theorem isOptional_of_parameter {p : Parameter} (h : m.parameter x = .ok p) :
    m.isOptional x = .ok (p.optional || m.overloads.any fun o => !o.declares x) := by
  rw [isOptional, h]
  rfl

theorem isRest_of_parameter {p : Parameter} (h : m.parameter x = .ok p) :
    m.isRest x = .ok (p.rest && m.parameterNames.getLast? == some x) := by
  rw [isRest, h]
  rfl

/-- What an entry of the signature is where all names are known. -/
theorem rendered_of_isRest {b : Bool} (h : m.isRest x = .ok b) :
    m.rendered x = if b then "..." ++ x else x := by
  rw [rendered, h]
  cases b <;> rfl

end SchemaWrappers.Method
