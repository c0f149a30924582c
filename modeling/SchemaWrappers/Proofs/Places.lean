import Mathlib.Data.List.Basic

namespace SchemaWrappers
variable {ι α β γ : Type}

/-- The list holds what `R` puts at each place, once and in the order of places, and nothing else. -/
def Lists (before : ι → ι → Prop) (R : ι → β → Prop) (bs : List β) : Prop :=
  ∃ placed : List (ι × β), placed.Pairwise (fun x y => before x.1 y.1) ∧
    (∀ x b, (x, b) ∈ placed ↔ R x b) ∧ placed.map Prod.snd = bs

/-- Places in the order of an outer position first, and of places inside it then. -/
def Nested (before : ι → ι → Prop) (x y : Nat × ι) : Prop :=
  x.1 < y.1 ∨ x.1 = y.1 ∧ before x.2 y.2

namespace Lists
variable {before : ι → ι → Prop}

theorem congr {R S : ι → β → Prop} {bs : List β} (h : Lists before R bs)
    (he : ∀ x b, R x b ↔ S x b) : Lists before S bs := by
  obtain ⟨placed, hsorted, hmem, hbs⟩ := h
  exact ⟨placed, hsorted, fun x b => (hmem x b).trans (he x b), hbs⟩

theorem nil {R : ι → β → Prop} (h : ∀ x b, ¬ R x b) : Lists before R [] :=
  ⟨[], .nil, fun x b => by simp [h], rfl⟩

theorem exists_of_mem {R : ι → β → Prop} {bs : List β} (h : Lists before R bs) {b : β}
    (hb : b ∈ bs) : ∃ x, R x b := by
  obtain ⟨placed, -, hmem, rfl⟩ := h
  obtain ⟨⟨x, b⟩, hx, rfl⟩ := List.mem_map.mp hb
  exact ⟨x, (hmem ..).mp hx⟩

theorem singleton (x : ι) (b : β) : Lists before (fun y c => y = x ∧ c = b) [b] :=
  ⟨[(x, b)], List.pairwise_singleton .., by simp, rfl⟩

theorem map {R : ι → β → Prop} {bs : List β} (h : Lists before R bs) (f : β → γ) :
    Lists before (fun x c => ∃ b, R x b ∧ f b = c) (bs.map f) := by
  obtain ⟨placed, hsorted, hmem, rfl⟩ := h
  refine ⟨placed.map fun x => (x.1, f x.2), ?_, ?_, ?_⟩
  · rw [List.pairwise_map]
    exact hsorted
  · simp [← hmem]
  · rw [List.map_map, List.map_map]
    rfl

/-- One list behind the other, if all places of the first come before those of the second. -/
theorem append {R S : ι → β → Prop} {as bs : List β} (ha : Lists before R as)
    (hb : Lists before S bs) (h : ∀ x a y b, R x a → S y b → before x y) :
    Lists before (fun x b => R x b ∨ S x b) (as ++ bs) := by
  obtain ⟨front, hf, hmf, rfl⟩ := ha
  obtain ⟨back, hk, hmk, rfl⟩ := hb
  refine ⟨front ++ back, ?_, ?_, List.map_append⟩
  · rw [List.pairwise_append]
    exact ⟨hf, hk, fun x hx y hy => h _ _ _ _ ((hmf ..).mp hx) ((hmk ..).mp hy)⟩
  · simp [hmf, hmk]

/-- The same list with `n` places put before. -/
theorem shift {R : Nat → β → Prop} {bs : List β} (h : Lists (· < ·) R bs) (n : Nat) :
    Lists (· < ·) (fun i b => ∃ j, i = n + j ∧ R j b) bs := by
  obtain ⟨placed, hsorted, hmem, rfl⟩ := h
  refine ⟨placed.map fun x => (n + x.1, x.2), ?_, ?_, ?_⟩
  · rw [List.pairwise_map]
    exact hsorted.imp fun h => Nat.add_lt_add_left h n
  · simp [← hmem, eq_comm, and_comm]
  · rw [List.map_map]
    rfl

theorem filterMap (f : α → Option β) (as : List α) :
    Lists (· < ·) (fun (i : Nat) b => ∃ a, as[i]? = some a ∧ f a = some b) (as.filterMap f) := by
  induction as with
  | nil => exact nil (by simp)
  | cons a as ih =>
    obtain ⟨placed, hsorted, hmem, hbs⟩ := ih
    let behind : List (Nat × β) := placed.map fun x => (x.1 + 1, x.2)
    have hsorted' : behind.Pairwise (fun x y => x.1 < y.1) := by
      rw [List.pairwise_map]
      exact hsorted.imp fun h => Nat.succ_lt_succ h
    have hbs' : behind.map Prod.snd = as.filterMap f := by
      rw [← hbs, List.map_map]
      rfl
    cases ha : f a with
    | none =>
      refine ⟨behind, hsorted', ?_, by rw [List.filterMap_cons, ha, hbs']⟩
      intro i b
      cases i with
      | zero => simp [behind, ha]
      | succ i => simp [behind, hmem]
    | some b =>
      refine ⟨(0, b) :: behind, .cons ?_ hsorted', ?_, ?_⟩
      · intro x hx
        obtain ⟨_, -, rfl⟩ := List.mem_map.mp hx
        exact Nat.succ_pos _
      · intro i b'
        cases i with
        | zero => simp [behind, ha, eq_comm]
        | succ i => simp [behind, hmem]
      · rw [List.filterMap_cons, ha, List.map_cons, hbs']

/-- What the elements of a list are each spread into, by position and by place inside. -/
theorem flatMap {R : α → ι → β → Prop} {g : α → List β} {as : List α}
    (h : ∀ a ∈ as, Lists before (R a) (g a)) :
    Lists (Nested before) (fun x b => ∃ a, as[x.1]? = some a ∧ R a x.2 b) (as.flatMap g) := by
  induction as with
  | nil => exact nil (by simp)
  | cons a as ih =>
    obtain ⟨inner, hi, hmi, hbi⟩ := h a (List.mem_cons_self ..)
    obtain ⟨outer, ho, hmo, hbo⟩ := ih fun b hb => h b (List.mem_cons_of_mem _ hb)
    -- The head keeps its places at position 0; those of the tail move up by one.
    let here : List ((Nat × ι) × β) := inner.map fun x => ((0, x.1), x.2)
    let behind : List ((Nat × ι) × β) := outer.map fun x => ((x.1.1 + 1, x.1.2), x.2)
    have hsorted : (here ++ behind).Pairwise (fun x y => Nested before x.1 y.1) := by
      rw [List.pairwise_append, List.pairwise_map, List.pairwise_map]
      refine ⟨hi.imp fun h => .inr ⟨rfl, h⟩, ho.imp ?_, ?_⟩
      · rintro x y (hxy | ⟨he, hxy⟩)
        · exact .inl (Nat.succ_lt_succ hxy)
        · exact .inr ⟨congrArg (· + 1) he, hxy⟩
      · intro x hx y hy
        obtain ⟨_, -, rfl⟩ := List.mem_map.mp hx
        obtain ⟨_, -, rfl⟩ := List.mem_map.mp hy
        exact .inl (Nat.succ_pos _)
    refine ⟨here ++ behind, hsorted, ?_, ?_⟩
    · rintro ⟨i, x⟩ b
      cases i with
      | zero => simp [here, behind, hmi]
      | succ i => simp [here, behind, hmo (i, x)]
    · rw [List.flatMap_cons, List.map_append, ← hbi, ← hbo, List.map_map, List.map_map]
      rfl

end Lists
end SchemaWrappers
