import SchemaWrappers.Proofs.Method.Batching

/-! Optional parameters: a parameter that some overload does without is optional, and once a parameter is
optional, it stays so whatever is added and merged. -/
namespace SchemaWrappers.Method
variable {name x : String} {m m' : Method}

theorem declares_iff {o : Overload} : o.declares x = true ↔ x ∈ o.parameters.map (·.name) := by
  simp [Overload.declares]

theorem isOptional_eq_ok_iff {b : Bool} :
    m.isOptional x = .ok b ↔
      ∃ p, m.parameter x = .ok p ∧ (p.optional || m.overloads.any fun o => !o.declares x) = b := by
  cases hp : m.parameter x with
  | error e =>
    rw [isOptional, hp]
    simp [bind, Except.bind]
  | ok p => simp [isOptional_of_parameter hp]

/-- The question is answered for merged names only. -/
theorem mem_of_isOptional {b : Bool} (h : m.isOptional x = .ok b) : x ∈ m.parameterNames := by
  by_contra hx
  obtain ⟨p, hp, -⟩ := isOptional_eq_ok_iff.mp h
  rw [parameter_of_not_mem hx] at hp
  cases hp

theorem isOptional_of_omitted (hx : x ∈ m.parameterNames) {o : Overload} (ho : o ∈ m.overloads)
    (hout : x ∉ o.parameters.map (·.name)) : m.isOptional x = .ok true := by
  obtain ⟨p, hp⟩ := parameter_of_mem hx
  refine isOptional_eq_ok_iff.mpr ⟨p, parameter_of_find? hp, ?_⟩
  have hany : m.overloads.any (fun o => !o.declares x) = true :=
    List.any_eq_true.mpr ⟨o, ho, by simpa using mt declares_iff.mp hout⟩
  rw [hany, Bool.or_true]

theorem mem_of_required (h : m.isOptional x = .ok false) {o : Overload} (ho : o ∈ m.overloads) :
    x ∈ o.parameters.map (·.name) := by
  obtain ⟨p, -, hnone⟩ := isOptional_eq_ok_iff.mp h
  have hany := List.any_eq_false.mp (Bool.or_eq_false_iff.mp hnone).2 o ho
  exact declares_iff.mp (by simpa using hany)

/-- The first record of a name is that of all longer lists. -/
theorem parameter_of_isPrefix (h : m.merged <+: m'.merged) {p : Parameter}
    (hp : m.parameter x = .ok p) : m'.parameter x = .ok p := by
  rw [parameter] at hp
  split at hp
  · rename_i hfound
    obtain rfl := Except.ok.inj hp
    exact parameter_of_find? (h.find?_eq_some hfound)
  · cases hp

/-- More overloads, and more parameters behind those there are, leave optional what is optional. -/
theorem isOptional_mono (hmerged : m.merged <+: m'.merged) (hoverloads : m.overloads ⊆ m'.overloads)
    (h : m.isOptional x = .ok true) : m'.isOptional x = .ok true := by
  obtain ⟨p, hp, ho⟩ := isOptional_eq_ok_iff.mp h
  refine isOptional_eq_ok_iff.mpr ⟨p, parameter_of_isPrefix hmerged hp, ?_⟩
  rcases Bool.or_eq_true_iff.mp ho with ho | ho
  · rw [ho, Bool.true_or]
  · obtain ⟨o, hmem, hout⟩ := List.any_eq_true.mp ho
    rw [List.any_eq_true.mpr ⟨o, hoverloads hmem, hout⟩, Bool.or_true]

theorem Holds.declared {changes : List Change} (h : Holds m changes) (hx : x ∈ m.parameterNames) :
    ∃ o ∈ m.overloads, x ∈ o.parameters.map (·.name) := by
  obtain ⟨p, hp, rfl⟩ := List.mem_map.mp hx
  rw [h.merged] at hp
  obtain ⟨o, ho, hp⟩ := List.mem_flatMap.mp (mem_of_mem_firstsBy hp)
  rw [h.overloads]
  exact ⟨o, (seen_isPrefix_overloads changes).subset ho, List.mem_map_of_mem hp⟩

theorem overloads_subset_after (hm : new name = .ok m) (changes more : List Change) :
    (m.after changes).overloads ⊆ (m.after (changes ++ more)).overloads := by
  rw [(holds_after hm changes).overloads, (holds_after hm (changes ++ more)).overloads,
    List.flatMap_append]
  exact List.subset_append_left ..

/-- Whatever is added to a method and merged, a name that is merged but not declared by the overload
that was added first is optional, so a required name is one of the first overload's parameters and of
those of all others; and what is optional stays so. -/
theorem optionality_only_grows (hname : name ≠ "") :
    ∃ m, new name = .ok m ∧ ∀ changes : List Change,
      let os := changes.flatMap (·.overloads)
      (∀ first, os.head? = some first → ∀ x ∈ (m.after changes).parameterNames,
        x ∉ first.parameters.map (·.name) → (m.after changes).isOptional x = .ok true) ∧
      (∀ x, (m.after changes).isOptional x = .ok false →
        (∃ first, os.head? = some first ∧ x ∈ first.parameters.map (·.name)) ∧
          ∀ o ∈ os, x ∈ o.parameters.map (·.name)) ∧
      ∀ more x, (m.after changes).isOptional x = .ok true →
        (m.after (changes ++ more)).isOptional x = .ok true := by
  have hm : new name = .ok { name } := by
    rw [new, if_neg (by simpa using hname)]
  refine ⟨_, hm, fun changes => ?_⟩
  have hholds := holds_after hm changes
  refine ⟨?_, ?_, ?_⟩
  · intro first hfirst x hx hout
    refine isOptional_of_omitted hx ?_ hout
    rw [hholds.overloads]
    exact List.mem_of_head? hfirst
  · intro x hx
    have hall : ∀ o ∈ changes.flatMap (·.overloads), x ∈ o.parameters.map (·.name) := by
      intro o ho
      exact mem_of_required hx (hholds.overloads ▸ ho)
    obtain ⟨o, ho, -⟩ := hholds.declared (mem_of_isOptional hx)
    rw [hholds.overloads] at ho
    have hfirst := List.head?_eq_some_head (List.ne_nil_of_mem ho)
    exact ⟨⟨_, hfirst, hall _ (List.mem_of_head? hfirst)⟩, hall⟩
  · intro more x hx
    exact isOptional_mono (merged_isPrefix_after hm changes more)
      (overloads_subset_after hm changes more) hx

/-- The overload that is added last does without the parameter that both others require. -/
def objectChanges : List Change :=
  [.add [{ owner := "Builder", name := "Object", parameters := [{ name := "props" }] },
      { owner := "Builder", name := "Object", parameters := [{ name := "props" }, { name := "options" }] }],
    .merge]

theorem object_optional_from_omission :
    "Object" ≠ "" ∧ ∃ m, new "Object" = .ok m ∧
      (m.after objectChanges).isOptional "props" = .ok false ∧
      (m.after objectChanges).isOptional "options" = .ok true ∧
      (∀ more, (m.after (objectChanges ++ more)).isOptional "options" = .ok true) ∧
      (m.after (objectChanges ++ [.add [{ owner := "Other", name := "Object" }]])).isOptional "props" =
        .ok true := by
  have hname : "Object" ≠ "" := by decide
  obtain ⟨m, hm, h⟩ := optionality_only_grows hname
  obtain ⟨-, rfl⟩ := new_ok hm
  obtain ⟨hfirst, -, hgrows⟩ := h objectChanges
  have hoptions := hfirst _ rfl "options" (by decide) (by decide)
  exact ⟨hname, _, hm, by decide, hoptions, fun more => hgrows more "options" hoptions, by decide⟩

end SchemaWrappers.Method
