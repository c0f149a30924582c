import Mathlib.Data.List.Induction
import Mathlib.Data.List.Nodup
import SchemaWrappers.Method

namespace SchemaWrappers
variable {α β : Type} [BEq β] {f : α → β}

theorem mem_of_mem_firstsFrom {seen : List β} {a : α} {as : List α} (h : a ∈ firstsFrom f seen as) :
    a ∈ as := by
  induction as generalizing seen with
  | nil => exact h
  | cons b as ih =>
    rw [firstsFrom] at h
    split at h
    · exact List.mem_cons_of_mem _ (ih h)
    · rcases List.mem_cons.mp h with rfl | h
      · exact List.mem_cons_self ..
      · exact List.mem_cons_of_mem _ (ih h)

theorem mem_of_mem_firstsBy {a : α} {as : List α} (h : a ∈ firstsBy f as) : a ∈ as :=
  mem_of_mem_firstsFrom h

theorem firstsFrom_isPrefix (seen : List β) (as bs : List α) :
    firstsFrom f seen as <+: firstsFrom f seen (as ++ bs) := by
  induction as generalizing seen with
  | nil => exact List.nil_prefix
  | cons a as ih =>
    rw [List.cons_append, firstsFrom, firstsFrom]
    split
    · exact ih seen
    · exact (List.prefix_cons_inj a).mpr (ih _)

/-- What is put behind a list does not change what was kept of it. -/
theorem firstsBy_isPrefix {as bs : List α} (h : as <+: bs) : firstsBy f as <+: firstsBy f bs := by
  obtain ⟨back, rfl⟩ := h
  exact firstsFrom_isPrefix [] as back

variable [LawfulBEq β]

/-- The keys that are kept are those outside `seen`, without their repetitions. -/
theorem firstsFrom_keys (seen : List β) (as : List α) :
    (firstsFrom f seen as).map f = ((as.map f).filter (!seen.contains ·)).eraseDups := by
  induction as generalizing seen with
  | nil => rfl
  | cons a as ih =>
    by_cases hs : seen.contains (f a)
    · simp only [firstsFrom, hs, if_true, ih, List.map_cons, List.filter_cons, Bool.not_true,
        Bool.false_eq_true, if_false]
    · rw [firstsFrom, if_neg hs, List.map_cons, ih, List.map_cons, List.filter_cons,
        if_pos (by simpa using hs), List.eraseDups_cons, List.filter_filter]
      congr 3
      funext b
      rw [List.contains_cons, Bool.not_or]

theorem firstsFrom_keys_nodup (seen : List β) (as : List α) :
    ((firstsFrom f seen as).map f).Nodup := by
  induction as generalizing seen with
  | nil => exact List.nodup_nil
  | cons a as ih =>
    by_cases hs : seen.contains (f a)
    · rw [firstsFrom, if_pos hs]
      exact ih seen
    · rw [firstsFrom, if_neg hs, List.map_cons, List.nodup_cons]
      refine ⟨?_, ih _⟩
      rw [firstsFrom_keys, List.mem_eraseDups]
      simp

/-- Of a key that is still wanted, the first element is the first one of the whole list. -/
theorem find?_firstsFrom {seen : List β} {k : β} (hk : seen.contains k = false) (as : List α) :
    (firstsFrom f seen as).find? (f · == k) = as.find? (f · == k) := by
  induction as generalizing seen with
  | nil => rfl
  | cons a as ih =>
    by_cases hs : seen.contains (f a)
    · have hne : (f a == k) = false := by
        rw [beq_eq_false_iff_ne]
        rintro rfl
        rw [hs] at hk
        cases hk
      rw [firstsFrom, if_pos hs, ih hk, List.find?_cons, hne]
    · rw [firstsFrom, if_neg hs, List.find?_cons, List.find?_cons]
      cases hf : f a == k with
      | true => rfl
      | false =>
        have hk' : (f a :: seen).contains k = false := by
          rw [List.contains_cons, hk, Bool.or_false, beq_eq_false_iff_ne]
          exact (beq_eq_false_iff_ne.mp hf).symm
        exact ih hk'

theorem find?_firstsBy (as : List α) (k : β) :
    (firstsBy f as).find? (f · == k) = as.find? (f · == k) :=
  find?_firstsFrom rfl as

theorem firstsBy_keys (as : List α) : (firstsBy f as).map f = (as.map f).eraseDups := by
  rw [firstsBy, firstsFrom_keys]
  simp

theorem firstsBy_keys_nodup (as : List α) : ((firstsBy f as).map f).Nodup :=
  firstsFrom_keys_nodup [] as

theorem distinct_eq_eraseDups (as : List β) : distinct as = as.eraseDups := by
  have h := firstsBy_keys (f := id) as
  rwa [List.map_id, List.map_id] at h

theorem mem_distinct {as : List β} {b : β} : b ∈ distinct as ↔ b ∈ as := by
  rw [distinct_eq_eraseDups, List.mem_eraseDups]

theorem distinct_nodup (as : List β) : (distinct as).Nodup := by
  have h := firstsBy_keys_nodup (f := id) as
  rwa [List.map_id] at h

theorem distinct_concat (as : List β) (b : β) :
    distinct (as ++ [b]) = distinct as ++ if b ∈ as then [] else [b] := by
  rw [distinct_eq_eraseDups, distinct_eq_eraseDups, List.eraseDups_append]
  congr 1
  split
  · rename_i hb
    simp [List.removeAll, hb]
  · rename_i hb
    simp [List.removeAll, hb, List.eraseDups_cons]

/-- An element that has been before does not show. -/
theorem distinct_append_cons_of_mem {as : List β} {b : β} (h : b ∈ as) (bs : List β) :
    distinct (as ++ b :: bs) = distinct (as ++ bs) := by
  have hb : (b :: bs).removeAll as = bs.removeAll as := by simp [List.removeAll, h]
  rw [distinct_eq_eraseDups, distinct_eq_eraseDups, List.eraseDups_append, List.eraseDups_append, hb]

/-- Elements that can be told apart by their images are without repetitions where these are. -/
theorem map_distinct {γ : Type} [BEq γ] [LawfulBEq γ] {g : β → γ} {as : List β}
    (h : ∀ a ∈ as, ∀ b ∈ as, g a = g b → a = b) : (distinct as).map g = (as.map g).eraseDups := by
  rw [← distinct_eq_eraseDups]
  induction as using List.reverseRecOn with
  | nil => rfl
  | append_singleton as b ih =>
    have hb : g b ∈ as.map g ↔ b ∈ as := by
      constructor
      · intro hmem
        obtain ⟨a, ha, hab⟩ := List.mem_map.mp hmem
        exact h a (List.mem_append_left _ ha) b (List.mem_append_right _ (List.mem_singleton_self b)) hab ▸ ha
      · exact List.mem_map_of_mem
    have has := ih fun a ha c hc => h a (List.mem_append_left _ ha) c (List.mem_append_left _ hc)
    rw [List.map_append, List.map_singleton, distinct_concat, distinct_concat, List.map_append, has]
    simp only [hb]
    split
    · rfl
    · rfl

/-- Elements that were left out because they had been seen are left out for that in any case. -/
theorem firstsFrom_firstsFrom {seen seen' : List β} (h : seen' ⊆ seen) (bs : List β) :
    firstsFrom id seen (firstsFrom id seen' bs) = firstsFrom id seen bs := by
  induction bs generalizing seen seen' with
  | nil => rfl
  | cons b bs ih =>
    by_cases hb : seen.contains b = true
    · have hskip := ih h
      have hskip' := ih (List.cons_subset.mpr ⟨List.contains_iff_mem.mp hb, h⟩)
      rw [firstsFrom, firstsFrom, id_eq, if_pos hb]
      split
      · exact hskip
      · rw [firstsFrom, id_eq, if_pos hb, hskip']
    · have hb' : ¬ seen'.contains b = true :=
        fun hm => hb (List.contains_iff_mem.mpr (h (List.contains_iff_mem.mp hm)))
      rw [firstsFrom, firstsFrom, id_eq, if_neg hb, if_neg hb', firstsFrom, id_eq, if_neg hb,
        ih (List.cons_subset_cons b h)]

/-- Repetitions in what is put behind a list do not show. -/
theorem distinct_append_distinct (as bs : List β) : distinct (as ++ distinct bs) = distinct (as ++ bs) := by
  have hseen : ∀ seen : List β,
      firstsFrom id seen (as ++ distinct bs) = firstsFrom id seen (as ++ bs) := by
    induction as with
    | nil => exact fun seen => firstsFrom_firstsFrom (List.nil_subset _) bs
    | cons a as ih =>
      intro seen
      rw [List.cons_append, List.cons_append, firstsFrom, firstsFrom, ih, ih]
  exact hseen []

end SchemaWrappers
