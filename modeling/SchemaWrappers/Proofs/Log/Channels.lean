import Mathlib.Data.List.TakeWhile
import SchemaWrappers.Log.Channels

/-! Channels whose names do not begin with a dot lead to the program's own, whichever others are in
use. -/
namespace SchemaWrappers.Log

/-- The name of a part, if it has one, does not begin with a dot. -/
def Undotted (part : Option String) : Prop := ∀ p ∈ part, p.toList.head? ≠ some '.'

instance (part : Option String) : Decidable (Undotted part) :=
  inferInstanceAs (Decidable (∀ p ∈ part, p.toList.head? ≠ some '.'))

variable {front back cs xs : List Char}

theorem beforeDot?_append (h : '.' ∉ back) : beforeDot? (front ++ '.' :: back) = some front := by
  have hback : ∀ c ∈ back.reverse, (c != '.') = true := by
    intro c hc
    rw [bne_iff_ne]
    rintro rfl
    exact h (List.mem_reverse.mp hc)
  rw [beforeDot?, List.reverse_append, List.reverse_cons, List.append_assoc,
    List.dropWhile_append_of_pos hback]
  simp

theorem beforeDot?_of_not_mem (h : '.' ∉ cs) : beforeDot? cs = none := by
  have hall : cs.reverse.dropWhile (· != '.') = [] := by
    rw [List.dropWhile_eq_nil_iff]
    intro c hc
    rw [bne_iff_ne]
    rintro rfl
    exact h (List.mem_reverse.mp hc)
  rw [beforeDot?, hall]

theorem exists_last_dot (h : '.' ∈ cs) : ∃ front back, cs = front ++ '.' :: back ∧ '.' ∉ back := by
  induction cs with
  | nil => cases h
  | cons c cs ih =>
    by_cases hcs : '.' ∈ cs
    · obtain ⟨front, back, rfl, hback⟩ := ih hcs
      exact ⟨c :: front, back, rfl, hback⟩
    · obtain rfl : '.' = c := by simpa [hcs] using h
      exact ⟨[], cs, rfl, hcs⟩

theorem above_of_beforeDot? (h : beforeDot? cs = some front) (hne : front ≠ []) :
    above cs = front :: above front.dropLast := by
  obtain ⟨c, front, rfl⟩ := List.exists_cons_of_ne_nil hne
  rw [above]
  split
  · rename_i h'
    rw [h] at h'
    cases h'
  · rename_i h'
    rw [h] at h'
    cases h'
  · rename_i h'
    rw [h] at h'
    cases h'
    rfl

theorem above_of_not_mem (h : '.' ∉ cs) : above cs = [] := by
  have hb := beforeDot?_of_not_mem h
  rw [above]
  split
  · rfl
  · rfl
  · rename_i h'
    rw [hb] at h'
    cases h'

/-- The text of the program's own channel. -/
abbrev rootChars : List Char := root.toList

/-- Above a name that begins behind a single dot are the program's own, and others of this kind. -/
theorem above_root (hx : xs.head? ≠ some '.') :
    rootChars ∈ above (rootChars ++ '.' :: xs) ∧ ∀ front ∈ above (rootChars ++ '.' :: xs),
      front = rootChars ∨ ∃ ys, front = rootChars ++ '.' :: ys ∧ ys.head? ≠ some '.' := by
  induction hn : xs.length using Nat.strongRecOn generalizing xs with
  | ind n ih =>
    by_cases hdot : '.' ∈ xs
    · obtain ⟨ys, back, rfl, hback⟩ := exists_last_dot hdot
      cases ys with
      | nil => exact absurd rfl hx
      | cons y ys =>
        have hbefore : beforeDot? (rootChars ++ '.' :: (y :: ys ++ '.' :: back)) =
            some (rootChars ++ '.' :: y :: ys) := by
          rw [← List.cons_append, ← List.append_assoc]
          exact beforeDot?_append hback
        have hlast : (rootChars ++ '.' :: y :: ys).dropLast = rootChars ++ '.' :: (y :: ys).dropLast := by
          rw [List.dropLast_append_of_ne_nil (List.cons_ne_nil _ _), List.dropLast_cons_cons]
        have hhead : (y :: ys).dropLast.head? ≠ some '.' := by
          cases ys with
          | nil => simp
          | cons z ys => simpa using hx
        have hbelow := ih _ (by simp at hn ⊢; omega) hhead rfl
        rw [above_of_beforeDot? hbefore (by simp), hlast]
        refine ⟨List.mem_cons_of_mem _ hbelow.1, ?_⟩
        rintro front hf
        rcases List.mem_cons.mp hf with rfl | hf
        · exact .inr ⟨y :: ys, rfl, by simpa using hx⟩
        · exact hbelow.2 front hf
    · have hroot : '.' ∉ rootChars.dropLast := by decide
      rw [above_of_beforeDot? (beforeDot?_append hdot) (by decide), above_of_not_mem hroot]
      exact ⟨List.mem_singleton_self _, fun front hf => .inl (List.mem_singleton.mp hf)⟩

theorem leadsHome_root (opened : List String) : leadsHome opened rootChars = true := by
  rw [leadsHome, if_pos (beq_self_eq_true _)]

theorem leadsHome_of_head {opened : List String} (ho : root ∈ opened) (hx : xs.head? ≠ some '.') :
    leadsHome opened (rootChars ++ '.' :: xs) = true := by
  induction hn : xs.length using Nat.strongRecOn generalizing xs with
  | ind n ih =>
    obtain ⟨hroot, hothers⟩ := above_root hx
    rw [leadsHome]
    split
    · rfl
    · split
      · rename_i hnone
        have := List.find?_eq_none.mp hnone _ hroot
        simp [ho] at this
      · rename_i front hfound
        have hmem := List.mem_of_find?_eq_some hfound
        have hshort := length_of_mem_above hmem
        rcases hothers front hmem with rfl | ⟨ys, rfl, hy⟩
        · exact leadsHome_root opened
        · exact ih ys.length (by simp at hshort; omega) hy rfl

/-- The way up from the channel of a part ends at the program's own if the part's name does not begin
with a dot. -/
theorem leadsHome_channel {opened : List String} {part : Option String} (ho : root ∈ opened)
    (hp : Undotted part) : leadsHome opened (channel part).toList = true := by
  cases part with
  | none => exact leadsHome_root opened
  | some p =>
    rw [channel]
    split
    · exact leadsHome_root opened
    · rw [String.toList_append, String.toList_append, List.append_assoc]
      exact leadsHome_of_head ho (hp p rfl)

namespace Channels
variable {c : Channels} {ch : String} {level threshold : Level} {key : String × Level} {b : Bool}

theorem mem_take (c : Channels) (ch : String) : ch ∈ (c.take ch).opened := by
  rw [take]
  split
  · rename_i h
    exact List.contains_iff_mem.mp h
  · exact List.mem_cons_self ..

theorem mem_take_of_mem {other : String} (h : other ∈ c.opened) (ch : String) :
    other ∈ (c.take ch).opened := by
  rw [take]
  split
  · exact h
  · exact List.mem_cons_of_mem _ h

theorem found_take (c : Channels) (ch : String) : (c.take ch).found = c.found := by
  rw [take]
  split
  · rfl
  · rfl

theorem opened_counts (c : Channels) (ch : String) (level threshold : Level) :
    (c.counts ch level threshold).2.opened = c.opened := by
  rw [counts]
  split
  · rfl
  · rfl

/-- Unless something else was found before, records count if they reach the threshold. -/
theorem counts_eq (h : ∀ b, c.found.lookup (ch, level) = some b → b = level.reaches threshold) :
    (c.counts ch level threshold).1 = level.reaches threshold := by
  rw [counts]
  split
  · rename_i b hb
    exact h b hb
  · rfl

theorem lookup_counts (h : (c.counts ch level threshold).2.found.lookup key = some b) :
    c.found.lookup key = some b ∨ key = (ch, level) ∧ b = level.reaches threshold := by
  rw [counts] at h
  split at h
  · exact .inl h
  · dsimp only at h
    rw [List.lookup_cons] at h
    split at h
    · rename_i hk
      exact .inr ⟨beq_iff_eq.mp hk, (Option.some.inj h).symm⟩
    · exact .inl h

end Channels
end SchemaWrappers.Log
