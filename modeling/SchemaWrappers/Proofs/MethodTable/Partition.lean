import Mathlib.Data.List.Induction
import SchemaWrappers.Proofs.Except
import SchemaWrappers.Proofs.Method.Merging
import SchemaWrappers.Proofs.MethodTable.Names

/-! Grouping neither loses nor repeats an overload: the methods are a partition of the overloads by
name. -/
namespace SchemaWrappers.MethodTable

private theorem lookup_cons_group (n m : String) (os : List Overload) (gs : Groups) :
    List.lookup n ((m, os) :: gs) = if n = m then some os else gs.lookup n := by
  rw [List.lookup_cons]
  by_cases hn : n = m
  · simp [hn]
  · rw [if_neg hn, beq_eq_false_iff_ne.mpr hn]

theorem lookup_file (o : Overload) (gs : Groups) (n : String) :
    (file o gs).lookup n =
      if n = o.name then some ((gs.lookup n).getD [] ++ [o]) else gs.lookup n := by
  induction gs with
  | nil => rw [file, lookup_cons_group]; rfl
  | cons g gs ih =>
    obtain ⟨m, os⟩ := g
    by_cases hm : m = o.name
    · rw [file, if_pos (by simpa using hm), lookup_cons_group, lookup_cons_group, hm]
      by_cases hn : n = o.name <;> simp [hn]
    · rw [file, if_neg (by simpa using hm), lookup_cons_group, lookup_cons_group, ih]
      by_cases hn : n = m
      · rw [if_pos hn, if_pos hn, if_neg (hn ▸ hm)]
      · rw [if_neg hn, if_neg hn]

/-- The group of a name holds the overloads of that name in order; only a declared name has one. -/
theorem lookup_groups (os : List Overload) (n : String) :
    (groups os).lookup n =
      if ∃ o ∈ os, o.name = n then some (os.filter (·.name == n)) else none := by
  induction os using List.reverseRecOn with
  | nil => rfl
  | append_singleton os o ih =>
    rw [groups, List.foldl_append, List.foldl_cons, List.foldl_nil, ← groups, lookup_file, ih]
    by_cases hn : n = o.name
    · subst n
      by_cases h : ∃ o' ∈ os, o'.name = o.name
      · simp [h]
      · have hf : os.filter (·.name == o.name) = [] := by
          rw [List.filter_eq_nil_iff]
          intro o' ho' he
          exact h ⟨o', ho', by simpa using he⟩
        simp [h, hf]
    · have hne : o.name ≠ n := fun he => hn he.symm
      simp [hn, hne, or_and_right, exists_or]

/-- Each name has the same overloads in the same order in both lists. -/
def SameByName (os os' : List Overload) : Prop :=
  ∀ n, os.filter (·.name == n) = os'.filter (·.name == n)

theorem SameByName.declared {os os' : List Overload} (h : SameByName os os') (n : String) :
    (∃ o ∈ os, o.name = n) ↔ ∃ o ∈ os', o.name = n := by
  have hiff : ∀ l : List Overload, (∃ o ∈ l, o.name = n) ↔ l.filter (·.name == n) ≠ [] := by
    intro l
    simp [List.filter_eq_nil_iff]
  rw [hiff, hiff, h n]

theorem SameByName.names {os os' : List Overload} (h : SameByName os os') (fold : String → String) :
    names fold os = names fold os' :=
  names_congr h.declared

theorem SameByName.outcomes {os os' : List Overload} (h : SameByName os os')
    (fold : String → String) : outcomes fold os = outcomes fold os' := by
  have hgroup : ∀ n, (groups os).lookup n = (groups os').lookup n := by
    intro n
    rw [lookup_groups, lookup_groups, h n]
    simp only [h.declared n]
  have houtcome : outcome (groups os) = outcome (groups os') := by
    funext n
    rw [outcome, outcome, hgroup]
  rw [MethodTable.outcomes, MethodTable.outcomes, houtcome, h.names]

theorem SameByName.buildMethods {os os' : List Overload} (h : SameByName os os') :
    buildMethods os = buildMethods os' := by
  rw [SchemaWrappers.buildMethods, SchemaWrappers.buildMethods, methods, methods, h.outcomes]

theorem flatMap_filter_perm {α β : Type} [BEq β] [LawfulBEq β] {key : α → β} {keys : List β}
    {as : List α} (hd : keys.Nodup) (h : ∀ a ∈ as, key a ∈ keys) :
    (keys.flatMap fun k => as.filter (key · == k)).Perm as := by
  induction keys generalizing as with
  | nil =>
    cases as with
    | nil => exact .nil
    | cons a as => exact absurd (h a (List.mem_cons_self ..)) List.not_mem_nil
  | cons k keys ih =>
    obtain ⟨hk, hd⟩ := List.nodup_cons.mp hd
    -- The stretches of the other keys are taken from what the first key leaves.
    let others := as.filter (!key · == k)
    have hrest : ∀ l ∈ keys, as.filter (key · == l) = others.filter (key · == l) := by
      intro l hl
      rw [List.filter_filter]
      apply List.filter_congr
      intro a _
      by_cases ha : key a = l
      · have : key a ≠ k := by
          rintro rfl
          exact hk (ha ▸ hl)
        simp [ha, ha ▸ this]
      · simp [ha]
    have hmem : ∀ a ∈ others, key a ∈ keys := by
      intro a ha
      obtain ⟨ha, hak⟩ := List.mem_filter.mp ha
      rcases List.mem_cons.mp (h a ha) with he | hl
      · simp [he] at hak
      · exact hl
    rw [List.flatMap_cons, List.flatMap_congr hrest]
    exact ((ih hd hmem).append_left _).trans (List.filter_append_perm _ _)

def methodNamed (os : List Overload) (n : String) : Method :=
  (Method.add { name := n } (os.filter (·.name == n))).merge

/-- A declared name is never skipped: it has a method unless it is empty. -/
theorem outcome_of_declared {os : List Overload} {n : String} (h : ∃ o ∈ os, o.name = n) :
    outcome (groups os) n =
      if n = "" then .error .emptyName else .ok (.method (methodNamed os n)) := by
  obtain ⟨o, ho, rfl⟩ := h
  have hm : o ∈ os.filter (·.name == o.name) := List.mem_filter.mpr ⟨ho, by simp⟩
  rw [outcome, lookup_groups, if_pos ⟨o, ho, rfl⟩, Method.new]
  split
  · rename_i hnone
    cases hnone
  · rename_i hempty
    rw [Option.some.inj hempty] at hm
    exact absurd hm List.not_mem_nil
  · rename_i os' hs
    cases hs
    by_cases hn : o.name = ""
    · simp [hn, bind, Except.bind]
    · simp [hn, bind, Except.bind, pure, Except.pure, methodNamed]

theorem outcomes_of_ne_empty {os : List Overload} (fold : String → String)
    (h : ∀ o ∈ os, o.name ≠ "") :
    outcomes fold os = .ok ((names fold os).map fun n => .method (methodNamed os n)) := by
  apply mapM_ok
  intro n hn
  obtain ⟨o, ho, rfl⟩ := mem_names.mp hn
  rw [outcome_of_declared ⟨o, ho, rfl⟩, if_neg (h o ho)]

theorem outcomes_of_empty {os : List Overload} (fold : String → String)
    (h : ∃ o ∈ os, o.name = "") : outcomes fold os = .error .emptyName := by
  apply mapM_error
  · intro n hn
    rw [outcome_of_declared (mem_names.mp hn)]
    split
    · exact .inl rfl
    · exact .inr ⟨_, rfl⟩
  · exact ⟨"", mem_names.mpr h, by rw [outcome_of_declared h, if_pos rfl]⟩

theorem methods_of_ne_empty {os : List Overload} (fold : String → String)
    (h : ∀ o ∈ os, o.name ≠ "") :
    methods fold os = .ok ((names fold os).map (methodNamed os)) := by
  have hf : Outcome.method? ∘ (fun n => .method (methodNamed os n)) = some ∘ methodNamed os := rfl
  rw [methods, outcomes_of_ne_empty fold h]
  simp only [bind, Except.bind, pure, Except.pure, List.filterMap_map, hf, List.filterMap_eq_map]

/-- Methods cannot be made if one of the names is empty, and always else. -/
theorem methods_eq_error_iff {fold : String → String} {os : List Overload} {e : MethodError} :
    methods fold os = .error e ↔ (∃ o ∈ os, o.name = "") ∧ .emptyName = e := by
  by_cases h : ∃ o ∈ os, o.name = ""
  · have hos : methods fold os = .error .emptyName := by
      rw [methods, outcomes_of_empty fold h]
      rfl
    rw [hos]
    simp only [h, true_and, Except.error.injEq]
  · have hne : ∀ o ∈ os, o.name ≠ "" := fun o ho he => h ⟨o, ho, he⟩
    rw [methods_of_ne_empty fold hne]
    simp only [h, reduceCtorEq, false_and]

theorem mem_methods {fold : String → String} {os : List Overload} {ms : List Method}
    (h : methods fold os = .ok ms) {m : Method} :
    m ∈ ms ↔ ∃ n, (∃ o ∈ os, o.name = n) ∧ methodNamed os n = m := by
  have hne : ∀ o ∈ os, o.name ≠ "" := by
    intro o ho he
    rw [methods, outcomes_of_empty fold ⟨o, ho, he⟩] at h
    cases h
  rw [methods_of_ne_empty fold hne, Except.ok.injEq] at h
  subst ms
  simp only [List.mem_map, mem_names]

/-- The method has its name, its first overload and its parameters from overloads of the list. -/
structure MadeFrom (os : List Overload) (m : Method) : Prop where
  name : ∃ o ∈ os, o.name = m.name
  first : ∃ o ∈ os, m.overloads.head? = some o
  parameters : ∀ p ∈ m.merged, ∃ o ∈ os, p ∈ o.parameters
  distinct : m.parameterNames.Nodup

theorem madeFrom_of_mem_methods {fold : String → String} {os : List Overload} {ms : List Method}
    (h : methods fold os = .ok ms) {m : Method} (hm : m ∈ ms) : MadeFrom os m := by
  obtain ⟨n, ⟨o, ho, hn⟩, rfl⟩ := (mem_methods h).mp hm
  refine ⟨⟨o, ho, hn⟩, ?_, ?_, Method.merge_parameterNames_nodup _⟩
  · cases hf : os.filter (·.name == n) with
    | nil => exact absurd (by simpa using hn) (List.filter_eq_nil_iff.mp hf o ho)
    | cons first rest =>
      have hfirst : first ∈ os.filter (·.name == n) := hf ▸ List.mem_cons_self ..
      exact ⟨first, (List.mem_filter.mp hfirst).1, congrArg List.head? hf⟩
  · intro p hp
    obtain ⟨o, ho, hp⟩ := Method.mem_overloads_of_mem_merge hp
    exact ⟨o, (List.mem_filter.mp ho).1, hp⟩

/-- The methods of some overloads: one for each declared name in strict alphabetical order, each with
all overloads of its name in order of discovery and with their parameter names, each once. -/
structure IsPartition (fold : String → String) (os : List Overload) (ms : List Method) : Prop where
  names : ∀ n, n ∈ ms.map (·.name) ↔ ∃ o ∈ os, o.name = n
  nodup : (ms.map (·.name)).Nodup
  increasing : ms.Pairwise fun a b => NameLt fold a.name b.name
  overloads : ∀ m ∈ ms, m.overloads = os.filter (·.name == m.name)
  perm : (ms.flatMap (·.overloads)).Perm os
  parameters : ∀ m ∈ ms,
    m.parameterNames = (m.overloads.flatMap fun o => o.parameters.map (·.name)).eraseDups

theorem isPartition_methodNamed (fold : String → String) (os : List Overload) :
    IsPartition fold os ((MethodTable.names fold os).map (methodNamed os)) := by
  have hname : ((MethodTable.names fold os).map (methodNamed os)).map (·.name) =
      MethodTable.names fold os := by
    rw [List.map_map]
    exact List.map_id _
  refine ⟨?_, ?_, ?_, ?_, ?_, ?_⟩
  · intro n
    rw [hname]
    exact mem_names
  · rw [hname]
    exact names_nodup fold os
  · rw [List.pairwise_map]
    exact names_increasing fold os
  · intro m hm
    obtain ⟨n, -, rfl⟩ := List.mem_map.mp hm
    rfl
  · rw [List.flatMap_map]
    exact flatMap_filter_perm (names_nodup fold os) fun o ho => mem_names.mpr ⟨o, ho, rfl⟩
  · intro m hm
    obtain ⟨n, -, rfl⟩ := List.mem_map.mp hm
    rw [methodNamed, Method.merge_parameterNames, List.map_flatMap]
    rfl

/-- Methods are built from all overloads unless one has the empty name, and then they are a
partition of the overloads. No name is skipped, whatever the folding is. -/
theorem methods_partition (fold : String → String) (os : List Overload) :
    match methods fold os with
    | .error e => e = .emptyName ∧ ∃ o ∈ os, o.name = ""
    | .ok ms => (∀ o ∈ os, o.name ≠ "") ∧ IsPartition fold os ms ∧
        outcomes fold os = .ok (ms.map .method) := by
  by_cases h : ∃ o ∈ os, o.name = ""
  · rw [methods, outcomes_of_empty fold h]
    exact ⟨rfl, h⟩
  · have hne : ∀ o ∈ os, o.name ≠ "" := fun o ho he => h ⟨o, ho, he⟩
    rw [methods_of_ne_empty fold hne]
    refine ⟨hne, isPartition_methodNamed fold os, ?_⟩
    rw [outcomes_of_ne_empty fold hne, List.map_map]
    rfl

end SchemaWrappers.MethodTable
