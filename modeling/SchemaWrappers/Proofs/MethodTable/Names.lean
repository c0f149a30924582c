import Mathlib.Data.List.Nodup
import SchemaWrappers.MethodTable
import SchemaWrappers.Proofs.Firsts

/-! The alphabetical order is a strict total order whatever the folding is, so the list of names
depends on nothing but which names are declared. -/
namespace SchemaWrappers.MethodTable
variable {fold : String → String}

/-- The strict alphabetical order. -/
def NameLt (fold : String → String) (a b : String) : Prop :=
  fold a < fold b ∨ fold a = fold b ∧ a < b

theorem nameLe_iff {a b : String} :
    nameLe fold a b = true ↔ fold a < fold b ∨ fold a = fold b ∧ a ≤ b := by
  simp [nameLe]

theorem nameLe_trans (a b c : String) (hab : nameLe fold a b = true) (hbc : nameLe fold b c = true) :
    nameLe fold a c = true := by
  rw [nameLe_iff] at hab hbc ⊢
  rcases hab with hab | ⟨hab, hle⟩
  · rcases hbc with hbc | ⟨hbc, -⟩
    · exact .inl (String.lt_trans hab hbc)
    · exact .inl (hbc ▸ hab)
  · rcases hbc with hbc | ⟨hbc, hle'⟩
    · exact .inl (hab ▸ hbc)
    · exact .inr ⟨hab.trans hbc, String.le_trans hle hle'⟩

theorem nameLe_total (a b : String) : (nameLe fold a b || nameLe fold b a) = true := by
  rw [Bool.or_eq_true, nameLe_iff, nameLe_iff]
  by_cases hab : fold a < fold b
  · exact .inl (.inl hab)
  · by_cases hba : fold b < fold a
    · exact .inr (.inl hba)
    · have he : fold a = fold b := String.le_antisymm (String.not_lt.mp hba) (String.not_lt.mp hab)
      rcases String.le_total a b with h | h
      · exact .inl (.inr ⟨he, h⟩)
      · exact .inr (.inr ⟨he.symm, h⟩)

theorem nameLe_antisymm {a b : String} (hab : nameLe fold a b = true)
    (hba : nameLe fold b a = true) : a = b := by
  rw [nameLe_iff] at hab hba
  rcases hab with hab | ⟨he, hab⟩
  · rcases hba with hba | ⟨he, -⟩
    · exact absurd hba (String.lt_asymm hab)
    · exact absurd hab (he ▸ String.lt_irrefl _)
  · rcases hba with hba | ⟨-, hba⟩
    · exact absurd hba (he ▸ String.lt_irrefl _)
    · exact String.le_antisymm hab hba

theorem nameLt_of_nameLe {a b : String} (h : nameLe fold a b = true) (hne : a ≠ b) :
    NameLt fold a b := by
  rcases nameLe_iff.mp h with h | ⟨he, h⟩
  · exact .inl h
  · refine .inr ⟨he, String.not_le.mp fun hba => hne (String.le_antisymm h hba)⟩

variable {os : List Overload}

theorem mem_names {n : String} : n ∈ names fold os ↔ ∃ o ∈ os, o.name = n := by
  rw [names, List.mem_mergeSort, mem_distinct, List.mem_map]

theorem names_nodup (fold : String → String) (os : List Overload) : (names fold os).Nodup :=
  (List.mergeSort_perm _ _).nodup_iff.mpr (distinct_nodup _)

theorem names_sorted (fold : String → String) (os : List Overload) :
    (names fold os).Pairwise (fun a b => nameLe fold a b = true) :=
  List.pairwise_mergeSort nameLe_trans nameLe_total _

theorem names_increasing (fold : String → String) (os : List Overload) :
    (names fold os).Pairwise (NameLt fold) :=
  ((names_sorted fold os).and (names_nodup fold os)).imp fun h => nameLt_of_nameLe h.1 h.2

/-- However the set of names is enumerated, it is sorted into the same list. -/
theorem mergeSort_eq_names {ns : List String} (hd : ns.Nodup)
    (h : ∀ n, n ∈ ns ↔ ∃ o ∈ os, o.name = n) : ns.mergeSort (nameLe fold) = names fold os := by
  have hp : (ns.mergeSort (nameLe fold)).Perm (names fold os) := by
    refine (List.mergeSort_perm _ _).trans ?_
    rw [List.perm_ext_iff_of_nodup hd (names_nodup fold os)]
    intro n
    rw [h, mem_names]
  exact hp.eq_of_pairwise (fun _ _ _ _ => nameLe_antisymm)
    (List.pairwise_mergeSort nameLe_trans nameLe_total _) (names_sorted fold os)

theorem names_congr {os' : List Overload}
    (h : ∀ n, (∃ o ∈ os, o.name = n) ↔ ∃ o ∈ os', o.name = n) :
    names fold os = names fold os' := by
  rw [← mergeSort_eq_names (names_nodup fold os) fun n => mem_names.trans (h n)]
  exact (List.mergeSort_of_pairwise (names_sorted fold os)).symm

end SchemaWrappers.MethodTable
