import Mathlib.Data.List.Induction
import Mathlib.Data.List.TakeWhile
import SchemaWrappers.Text.Character
import SchemaWrappers.Text.Search

namespace SchemaWrappers.Text
variable {α : Type} {p : α → Bool}

theorem pieces_of_forall_not {as : List α} (h : ∀ a ∈ as, p a = false) : pieces p as = [as] := by
  induction as with
  | nil => rfl
  | cons a as ih =>
    rw [pieces, if_neg (by simp [h a (List.mem_cons_self ..)]),
      ih fun b hb => h b (List.mem_cons_of_mem _ hb)]

/-- The first cut is made at the first element that is cut at. -/
theorem pieces_append_cons {as bs : List α} {s : α} (h : ∀ a ∈ as, p a = false) (hs : p s = true) :
    pieces p (as ++ s :: bs) = as :: pieces p bs := by
  induction as with
  | nil => rw [List.nil_append, pieces, if_pos hs]
  | cons a as ih =>
    rw [List.cons_append, pieces, if_neg (by simp [h a (List.mem_cons_self ..)]),
      ih fun b hb => h b (List.mem_cons_of_mem _ hb)]

/-- What is cut at stands in no piece. -/
theorem not_of_mem_pieces {as w : List α} (h : w ∈ pieces p as) : ∀ a ∈ w, p a = false := by
  induction as generalizing w with
  | nil =>
    obtain rfl := List.mem_singleton.mp h
    simp
  | cons a as ih =>
    by_cases ha : p a = true
    · rw [pieces, if_pos ha] at h
      rcases List.mem_cons.mp h with rfl | h
      · simp
      · exact ih h
    · have ha' : p a = false := by simpa using ha
      rw [pieces, if_neg ha] at h
      cases hp : pieces p as with
      | nil =>
        rw [hp] at h
        obtain rfl := List.mem_singleton.mp h
        simpa using ha'
      | cons v ws =>
        rw [hp] at h ih
        rcases List.mem_cons.mp h with rfl | h
        · exact List.forall_mem_cons.mpr ⟨ha', ih (List.mem_cons_self ..)⟩
        · exact ih (List.mem_cons_of_mem _ h)

/-- Pieces hold nothing but what was cut. -/
theorem mem_of_mem_pieces {as w : List α} (h : w ∈ pieces p as) {a : α} (ha : a ∈ w) : a ∈ as := by
  induction as generalizing w with
  | nil =>
    obtain rfl := List.mem_singleton.mp h
    exact ha
  | cons b as ih =>
    rw [pieces] at h
    split at h
    · rcases List.mem_cons.mp h with rfl | h
      · cases ha
      · exact List.mem_cons_of_mem _ (ih h ha)
    · split at h
      · obtain rfl := List.mem_singleton.mp h
        exact List.mem_cons.mpr (.inl (List.mem_singleton.mp ha))
      · rename_i v ws hp
        rw [hp] at ih
        rcases List.mem_cons.mp h with rfl | h
        · exact (List.mem_cons.mp ha).elim (fun he => he ▸ List.mem_cons_self ..)
            fun ha => List.mem_cons_of_mem _ (ih (List.mem_cons_self ..) ha)
        · exact List.mem_cons_of_mem _ (ih (List.mem_cons_of_mem _ h) ha)

/-- What is put together with separators is cut apart at them. -/
theorem pieces_intercalate {s : α} (hs : p s = true) {ws : List (List α)} (hne : ws ≠ [])
    (h : ∀ w ∈ ws, ∀ a ∈ w, p a = false) : pieces p ([s].intercalate ws) = ws := by
  induction ws with
  | nil => exact absurd rfl hne
  | cons w ws ih =>
    obtain ⟨hw, hws⟩ := List.forall_mem_cons.mp h
    cases ws with
    | nil => rw [List.intercalate_singleton, pieces_of_forall_not hw]
    | cons v ws =>
      rw [List.intercalate_cons_cons, List.append_assoc, List.singleton_append, pieces_append_cons hw hs,
        ih (List.cons_ne_nil v ws) hws]

theorem not_blank_of_mem_words {cs w : List Char} (h : w ∈ words cs) :
    w ≠ [] ∧ ∀ c ∈ w, isBlank c = false := by
  obtain ⟨hw, hne⟩ := List.mem_filter.mp h
  exact ⟨by simpa using hne, not_of_mem_pieces hw⟩

/-- The blanks of a collapsed text are single spaces between its words. -/
theorem eq_space_of_mem_collapsed {cs : List Char} {c : Char} (h : c ∈ collapsed cs)
    (hc : isBlank c = true) : c = ' ' := by
  have hwords : ∀ w ∈ words cs, ∀ d ∈ w, isBlank d = false :=
    fun w hw => (not_blank_of_mem_words hw).2
  rw [collapsed] at h
  generalize words cs = ws at h hwords
  induction ws with
  | nil => simp at h
  | cons w ws ih =>
    have hw : c ∉ w := fun hm => by simp [hwords w (List.mem_cons_self ..) c hm] at hc
    have htail : ∀ w ∈ ws, ∀ d ∈ w, isBlank d = false :=
      fun w hm => hwords w (List.mem_cons_of_mem _ hm)
    cases ws with
    | nil =>
      rw [List.intercalate_singleton] at h
      exact absurd h hw
    | cons w' ws =>
      rw [List.intercalate_cons_cons, List.mem_append, List.mem_append, List.mem_singleton] at h
      rcases h with (h | h) | h
      · exact absurd h hw
      · exact h
      · exact ih h htail

/-- Something is left of a text with words in it, and it is not blank. -/
theorem exists_not_blank_of_collapsed {cs : List Char} (h : collapsed cs ≠ []) :
    ∃ c ∈ collapsed cs, isBlank c = false := by
  have hwords : ∀ w ∈ words cs, w ≠ [] ∧ ∀ c ∈ w, isBlank c = false := fun _ => not_blank_of_mem_words
  rw [collapsed] at h ⊢
  cases hws : words cs with
  | nil => simp [hws] at h
  | cons w ws =>
    obtain ⟨hne, hw⟩ := hwords w (by simp [hws])
    obtain ⟨c, w, rfl⟩ := List.exists_cons_of_ne_nil hne
    refine ⟨c, ?_, hw c (List.mem_cons_self ..)⟩
    cases ws <;> simp

/-- A stretch of elements that satisfy `p` is all that is taken if what follows does not go on so. -/
theorem takeWhile_run {run rest : List α} (hr : ∀ a ∈ run, p a = true)
    (hrest : rest.head?.any p = false) : (run ++ rest).takeWhile p = run := by
  rw [List.takeWhile_append_of_pos hr]
  cases rest with
  | nil => simp
  | cons a rest => rw [List.takeWhile_cons_of_neg (by simpa using hrest), List.append_nil]

theorem dropWhile_of_forall_not {as : List α} (h : ∀ a ∈ as, p a = false) :
    as.dropWhile p = as := by
  cases as with
  | nil => rfl
  | cons a as => rw [List.dropWhile_cons_of_neg (by simp [h a (List.mem_cons_self ..)])]

/-- Trimming takes a stretch off at both ends. -/
theorem exists_append_trimBoth (p : Char → Bool) (cs : List Char) :
    ∃ front back, cs = front ++ (trimBoth p cs ++ back) ∧ (∀ c ∈ front, p c = true) ∧
      ∀ c ∈ back, p c = true := by
  let rest := (cs.dropWhile p).reverse
  have hrest : cs.dropWhile p = trimBoth p cs ++ (rest.takeWhile p).reverse := by
    rw [trimBoth, ← List.reverse_append, List.takeWhile_append_dropWhile, List.reverse_reverse]
  refine ⟨cs.takeWhile p, (rest.takeWhile p).reverse, ?_, ?_, ?_⟩
  · rw [← hrest, List.takeWhile_append_dropWhile]
  · exact fun c hc => List.mem_takeWhile_imp hc
  · exact fun c hc => List.mem_takeWhile_imp (List.mem_reverse.mp hc)

/-- What is left after trimming does not begin or end with what is trimmed off. -/
theorem trimBoth_ends {p : Char → Bool} {cs : List Char} {c : Char}
    (h : (trimBoth p cs).head? = some c ∨ (trimBoth p cs).getLast? = some c) : p c = false := by
  rw [trimBoth, List.head?_reverse, List.getLast?_reverse] at h
  have hnot : ∀ as : List Char, (as.dropWhile p).head? = some c → p c = false := by
    intro as hc
    have hd := List.head?_dropWhile_not p as
    rwa [hc] at hd
  rcases h with h | h
  · -- what is dropped behind leaves the first character, if any, as it was
    refine hnot cs ?_
    have hs := List.reverse_prefix.mpr (List.dropWhile_suffix (l := (cs.dropWhile p).reverse) p)
    obtain ⟨back, hback⟩ := hs
    rw [List.reverse_reverse] at hback
    rw [← List.head?_reverse] at h
    rw [← hback, List.head?_append, h, Option.some_or]
  · exact hnot _ h

theorem mem_of_mem_trimmed {cs : List Char} {c : Char} (h : c ∈ trimmed cs) : c ∈ cs := by
  obtain ⟨front, back, he, -, -⟩ := exists_append_trimBoth isBlank cs
  rw [he]
  exact List.mem_append_right _ (List.mem_append_left _ h)

theorem mem_trimmed_of_not_blank {cs : List Char} {c : Char} (h : c ∈ cs) (hc : isBlank c = false) :
    c ∈ trimmed cs := by
  obtain ⟨front, back, he, hfront, hback⟩ := exists_append_trimBoth isBlank cs
  rw [he, List.mem_append, List.mem_append] at h
  rcases h with h | h | h
  · simp [hfront c h] at hc
  · exact h
  · simp [hback c h] at hc

theorem trimBoth_of_forall_not {p : Char → Bool} {cs : List Char} (h : ∀ c ∈ cs, p c = false) :
    trimBoth p cs = cs := by
  rw [trimBoth, dropWhile_of_forall_not h,
    dropWhile_of_forall_not fun c hc => h c (List.mem_reverse.mp hc), List.reverse_reverse]

theorem trimmed_of_forall_not_blank {cs : List Char} (h : ∀ c ∈ cs, isBlank c = false) :
    trimmed cs = cs := trimBoth_of_forall_not h

theorem trim_of_forall_not_blank {s : String} (h : ∀ c ∈ s.toList, isBlank c = false) : trim s = s := by
  rw [trim, trimmed_of_forall_not_blank h, String.ofList_toList]

theorem trimmed_cons_of_blank {b : Char} {cs : List Char} (h : isBlank b = true) :
    trimmed (b :: cs) = trimmed cs := by
  rw [trimmed, trimBoth, List.dropWhile_cons_of_pos h]
  rfl

theorem trimmed_concat_of_blank {b : Char} {cs : List Char} (h : isBlank b = true) :
    trimmed (cs ++ [b]) = trimmed cs := by
  rw [trimmed, trimmed, trimBoth, trimBoth, List.dropWhile_append]
  split
  · rename_i he
    rw [List.isEmpty_iff.mp he, List.dropWhile_cons_of_pos h]
    rfl
  · rw [List.reverse_append, List.reverse_singleton, List.singleton_append,
      List.dropWhile_cons_of_pos h]

theorem trimmed_append_of_blank {front back cs : List Char} (hfront : ∀ c ∈ front, isBlank c = true)
    (hback : ∀ c ∈ back, isBlank c = true) : trimmed (front ++ (cs ++ back)) = trimmed cs := by
  induction front with
  | cons c front ih =>
    rw [List.cons_append, trimmed_cons_of_blank (hfront c (List.mem_cons_self ..)),
      ih fun d hd => hfront d (List.mem_cons_of_mem _ hd)]
  | nil =>
    rw [List.nil_append]
    induction back using List.reverseRecOn with
    | nil => rw [List.append_nil]
    | append_singleton back c ih =>
      rw [← List.append_assoc, trimmed_concat_of_blank (hback c (by simp)),
        ih fun d hd => hback d (by simp [hd])]

theorem isBlank_of_endsLine {c : Char} (h : endsLine c = true) : isBlank c = true := by
  simp only [endsLine, List.contains_cons, List.contains_nil, Bool.or_false, Bool.or_eq_true,
    beq_iff_eq] at h
  rcases h with rfl | rfl | rfl | rfl | rfl | rfl | rfl | rfl | rfl | rfl <;> decide

private theorem linesOf_append {l : List Char} (hl : ∀ c ∈ l, endsLine c = false)
    (line cs : List Char) : linesOf false line (l ++ cs) = linesOf false (l.reverse ++ line) cs := by
  induction l generalizing line with
  | nil => rfl
  | cons c l ih =>
    have hc := hl c (List.mem_cons_self ..)
    rw [List.cons_append, linesOf.eq_3, if_neg (by simp [hc]),
      ih fun c hc => hl c (List.mem_cons_of_mem _ hc)]
    · simp
    · rintro cs' rfl
      simp [endsLine] at hc

/-- Lines joined by line feeds are told apart again, unless the last one is empty. -/
theorem lines_intercalate {ls : List (List Char)} (h : ∀ l ∈ ls, ∀ c ∈ l, endsLine c = false)
    (hlast : ∀ l ∈ ls.getLast?, l ≠ []) : lines (['\n'].intercalate ls) = ls := by
  induction ls with
  | nil => rfl
  | cons l ls ih =>
    have hl := h l (List.mem_cons_self ..)
    cases ls with
    | nil =>
      have hne : l ≠ [] := hlast l rfl
      rw [List.intercalate_singleton, lines, ← List.append_nil l, linesOf_append hl, linesOf.eq_1]
      simp [hne]
    | cons l' ls =>
      have hrest := ih (fun l hl => h l (List.mem_cons_of_mem _ hl)) hlast
      rw [List.intercalate_cons_cons, lines, List.append_assoc, linesOf_append hl, List.singleton_append,
        linesOf.eq_3, if_pos (by decide), ← lines, hrest]
      · simp
      · rintro cs' ⟨⟩

end SchemaWrappers.Text
