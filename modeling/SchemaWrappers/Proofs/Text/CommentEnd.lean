import Mathlib.Data.List.Infix
import SchemaWrappers.Proofs.Text.Pieces

/-! The two characters that end a block comment, and where in a text they can stand. -/
namespace SchemaWrappers.Text

/-- The end of a comment stands somewhere in the text. -/
def ClosesComment (cs : List Char) : Prop := ['*', '/'] <:+: cs

instance : DecidablePred ClosesComment := fun cs =>
  inferInstanceAs (Decidable (['*', '/'] <:+: cs))

/-- The text ends a comment with its last two characters, and not before. -/
def ClosesLast (cs : List Char) : Prop := ['*', '/'] <:+ cs ∧ ¬ ClosesComment cs.dropLast

theorem closesComment_cons_cons {a b : Char} {cs : List Char} :
    ClosesComment (a :: b :: cs) ↔ a = '*' ∧ b = '/' ∨ ClosesComment (b :: cs) := by
  rw [ClosesComment, List.infix_cons_iff, List.cons_prefix_cons, List.cons_prefix_cons]
  simp [ClosesComment, eq_comm]

theorem not_closesComment_singleton (a : Char) : ¬ ClosesComment [a] :=
  fun h => by simpa using h.length_le

/-- Neither of the two characters. -/
def Apart (c : Char) : Prop := c ≠ '*' ∧ c ≠ '/'

instance : DecidablePred Apart := fun c => inferInstanceAs (Decidable (c ≠ '*' ∧ c ≠ '/'))

theorem closesComment_cons_of_apart {c : Char} (hc : Apart c) (cs : List Char) :
    ClosesComment (c :: cs) ↔ ClosesComment cs := by
  cases cs with
  | nil => exact iff_of_false (not_closesComment_singleton c) (by decide)
  | cons d cs => rw [closesComment_cons_cons, or_iff_right fun h => hc.1 h.1]

/-- Characters apart from the end of a comment can be put before a text. -/
theorem closesComment_append_of_apart {xs : List Char} (h : ∀ c ∈ xs, Apart c) (ys : List Char) :
    ClosesComment (xs ++ ys) ↔ ClosesComment ys := by
  induction xs with
  | nil => rfl
  | cons x xs ih =>
    rw [List.cons_append, closesComment_cons_of_apart (h x (List.mem_cons_self ..))]
    exact ih fun c hc => h c (List.mem_cons_of_mem _ hc)

/-- The end of a comment stands before a character apart from it or behind, but not across. -/
theorem closesComment_append_cons {c : Char} (hc : Apart c) (xs ys : List Char) :
    ClosesComment (xs ++ c :: ys) ↔ ClosesComment xs ∨ ClosesComment ys := by
  have hhead := closesComment_cons_of_apart hc ys
  induction xs with
  | nil => simp [hhead, show ¬ ClosesComment [] by decide]
  | cons x xs ih =>
    cases xs with
    | nil => simp [closesComment_cons_cons, hc.2, hhead, not_closesComment_singleton]
    | cons x' xs =>
      rw [List.cons_append, List.cons_append, closesComment_cons_cons, closesComment_cons_cons,
        or_assoc]
      exact or_congr_right ih

/-- Characters apart from the end of a comment can be put behind a text. -/
theorem closesComment_append_apart {ys : List Char} (h : ∀ c ∈ ys, Apart c) (xs : List Char) :
    ClosesComment (xs ++ ys) ↔ ClosesComment xs := by
  cases ys with
  | nil => rw [List.append_nil]
  | cons y ys =>
    have hrest : ClosesComment ys ↔ ClosesComment [] := by
      simpa using closesComment_append_of_apart (fun c hc => h c (List.mem_cons_of_mem _ hc)) []
    rw [closesComment_append_cons (h y (List.mem_cons_self ..)), or_iff_left]
    exact hrest.not.mpr (by decide)

/-- Characters apart from the end of a comment keep two texts from closing one together. -/
theorem closesComment_append_append {bs : List Char} (hne : bs ≠ []) (h : ∀ c ∈ bs, Apart c)
    (xs ys : List Char) :
    ClosesComment (xs ++ bs ++ ys) ↔ ClosesComment xs ∨ ClosesComment ys := by
  cases bs with
  | nil => exact absurd rfl hne
  | cons b bs =>
    rw [List.append_assoc, List.cons_append, closesComment_append_cons (h b (List.mem_cons_self ..)),
      closesComment_append_of_apart fun c hc => h c (List.mem_cons_of_mem _ hc)]

theorem closesComment_append_of_last {xs : List Char} (hxs : ¬ ClosesComment xs)
    (hlast : ∀ c ∈ xs.getLast?, Apart c) (ys : List Char) :
    ClosesComment (xs ++ ys) ↔ ClosesComment ys := by
  rcases List.eq_nil_or_concat' xs with rfl | ⟨init, c, rfl⟩
  · rfl
  · have hc : Apart c := hlast c List.getLast?_concat
    have hinit : ¬ ClosesComment init := fun h => hxs (h.trans (List.prefix_append ..).isInfix)
    rw [List.append_assoc, List.singleton_append, closesComment_append_cons hc, or_iff_right hinit]

theorem apart_of_isBlank {c : Char} (h : isBlank c = true) : Apart c := by
  constructor <;> rintro rfl <;> revert h <;> decide

/-- Trimming a text does not take the end of a comment off. -/
theorem closesComment_trimmed (cs : List Char) : ClosesComment (trimmed cs) ↔ ClosesComment cs := by
  obtain ⟨front, back, he, hfront, hback⟩ := exists_append_trimBoth isBlank cs
  conv_rhs => rw [he]
  rw [closesComment_append_of_apart fun c hc => apart_of_isBlank (hfront c hc),
    closesComment_append_apart fun c hc => apart_of_isBlank (hback c hc), trimmed]

/-- Texts joined by a separator close a comment where one of them does, if the separator is apart. -/
theorem closesComment_intercalate {c : Char} (hc : Apart c) (ls : List (List Char)) :
    ClosesComment ([c].intercalate ls) ↔ ∃ l ∈ ls, ClosesComment l := by
  induction ls with
  | nil => simp [show ¬ ClosesComment [] by decide]
  | cons l ls ih =>
    cases ls with
    | nil => simp
    | cons l' ls =>
      rw [List.intercalate_cons_cons, List.append_assoc, List.singleton_append,
        closesComment_append_cons hc, ih]
      simp

/-- What the last text ends in, the joined texts end in. -/
private theorem intercalate_concat_append {α : Type} (sep : List α) (ls : List (List α)) (xs ys : List α) :
    sep.intercalate (ls ++ [xs ++ ys]) = sep.intercalate (ls ++ [xs]) ++ ys := by
  induction ls with
  | nil => simp
  | cons l ls ih =>
    cases ls with
    | nil => simp [List.intercalate_cons_cons]
    | cons l' ls =>
      simp only [List.cons_append, List.intercalate_cons_cons] at ih ⊢
      rw [ih, List.append_assoc, List.append_assoc, List.append_assoc]

/-- Lines before the one that ends a comment leave it to that one exactly if none of them closes the
comment. -/
theorem closesLast_intercalate {c : Char} (hc : Apart c) (ls : List (List Char)) :
    ClosesLast ([c].intercalate (ls ++ [[' ', '*', '/']])) ↔ ∀ l ∈ ls, ¬ ClosesComment l := by
  have hend : [c].intercalate (ls ++ [[' ', '*', '/']]) =
      [c].intercalate (ls ++ [[' ']]) ++ ['*', '/'] := intercalate_concat_append _ _ [' '] _
  have hlast : [c].intercalate (ls ++ [[' ', '*', '/']]) =
      [c].intercalate (ls ++ [[' ', '*']]) ++ ['/'] := intercalate_concat_append _ _ [' ', '*'] _
  have hsuffix : ['*', '/'] <:+ [c].intercalate (ls ++ [[' ', '*', '/']]) :=
    ⟨_, hend.symm⟩
  rw [ClosesLast, and_iff_right hsuffix, hlast, List.dropLast_concat, closesComment_intercalate hc]
  simp [show ¬ ClosesComment [' ', '*'] by decide]

end SchemaWrappers.Text
