import SchemaWrappers.Proofs.Text.CommentEnd
import SchemaWrappers.Proofs.Vocabulary.Qualify

/-! What qualification can put into a text: the namespace and a dot, and with them no end of a comment
that was not there. -/
namespace SchemaWrappers.Vocabulary
open Text

theorem mem_qualified {ns t : List Char} {c : Char} (h : c ∈ qualified ns t) :
    c ∈ t ∨ c ∈ ns ∨ c = '.' := by
  rw [qualified, List.mem_append, List.mem_cons] at h
  tauto

theorem mem_of_mem_qualifyFrom {tokens : List (List Char)} {ns : List Char} {before : Before}
    {cs : List Char} {c : Char} (h : c ∈ qualifyFrom tokens ns before cs) :
    c ∈ cs ∨ c ∈ ns ∨ c = '.' := by
  induction before, cs using qualifyFrom.induct tokens with
  | case1 _ hf =>
    rw [qualifyFrom.eq_1 _ _ _ hf, replacement_of_found? hf] at h
    exact mem_qualified h
  | case2 _ hf =>
    rw [qualifyFrom.eq_2 _ _ _ hf] at h
    exact .inl h
  | case3 _ t token d cs hf ih =>
    rw [qualifyFrom.eq_3 _ _ _ _ _ _ _ hf, replacement_of_found? hf, List.mem_append] at h
    rcases h with h | h
    · exact (mem_qualified h).imp_left fun ht => (isPrefix_of_found? hf).subset ht
    · exact (ih h).imp_left fun hd => List.mem_cons_of_mem _ (List.mem_of_mem_drop hd)
  | case4 _ t token hf =>
    rw [qualifyFrom.eq_4 _ _ _ _ _ hf, replacement_of_found? hf] at h
    exact (mem_qualified h).imp_left fun ht => (isPrefix_of_found? hf).subset ht
  | case5 _ d cs hf ih =>
    rw [qualifyFrom.eq_5 _ _ _ _ _ hf, replacement_of_found? hf, List.mem_append, List.mem_cons] at h
    rcases h with h | rfl | h
    · exact (mem_qualified h).imp_left fun ht => absurd ht List.not_mem_nil
    · exact .inl (List.mem_cons_self ..)
    · exact (ih h).imp_left (List.mem_cons_of_mem _)
  | case6 _ d cs hf ih =>
    rw [qualifyFrom.eq_6 _ _ _ _ _ hf, List.mem_cons] at h
    rcases h with rfl | h
    · exact .inl (List.mem_cons_self ..)
    · exact (ih h).imp_left (List.mem_cons_of_mem _)

/-- Qualification keeps all characters. -/
theorem mem_qualifyFrom_of_mem {tokens : List (List Char)} {ns : List Char} {before : Before}
    {cs : List Char} {c : Char} (h : c ∈ cs) : c ∈ qualifyFrom tokens ns before cs := by
  induction before, cs using qualifyFrom.induct tokens with
  | case1 _ hf => cases h
  | case2 _ hf => cases h
  | case3 _ t token d cs hf ih =>
    obtain ⟨rest, hrest⟩ := isPrefix_of_found? hf
    rw [List.cons_append] at hrest
    obtain ⟨rfl, rfl⟩ := List.cons.inj hrest
    rw [List.drop_left] at ih
    rw [← List.cons_append] at hf h ⊢
    rw [qualifyFrom_of_found? hf (List.cons_ne_nil _ _), List.mem_append]
    rcases List.mem_append.mp h with h | h
    · exact .inl (List.mem_append_right _ (List.mem_cons_of_mem _ h))
    · exact .inr (ih h)
  | case4 _ t token hf => cases h
  | case5 _ d cs hf ih =>
    rw [qualifyFrom.eq_5 _ _ _ _ _ hf]
    refine List.mem_append_right _ ?_
    rcases List.mem_cons.mp h with rfl | h
    · exact List.mem_cons_self ..
    · exact List.mem_cons_of_mem _ (ih h)
  | case6 _ d cs hf ih =>
    rw [qualifyFrom.eq_6 _ _ _ _ _ hf]
    rcases List.mem_cons.mp h with rfl | h
    · exact List.mem_cons_self ..
    · exact List.mem_cons_of_mem _ (ih h)

/-- A type with something to see in it is not lost. -/
theorem patch_ne_empty {v : Vocabulary} {ns type : String} (h : ∃ c ∈ type.toList, isBlank c = false) :
    v.patch ns type ≠ "" := by
  obtain ⟨c, hc, hb⟩ := h
  intro he
  have hmem : c ∈ (v.patch ns type).toList := by
    rw [patch, String.toList_ofList]
    exact mem_trimmed_of_not_blank (mem_qualifyFrom_of_mem hc) hb
  rw [he] at hmem
  cases hmem

theorem mem_of_mem_patch {v : Vocabulary} {ns type : String} {c : Char}
    (h : c ∈ (v.patch ns type).toList) : c ∈ type.toList ∨ c ∈ ns.toList ∨ c = '.' := by
  rw [patch, String.toList_ofList] at h
  exact mem_of_mem_qualifyFrom (mem_of_mem_trimmed h)

/-- No token is empty, and none holds a character of the end of a comment. -/
def TokensApart (tokens : List (List Char)) : Prop := ∀ t ∈ tokens, t ≠ [] ∧ ∀ c ∈ t, Apart c

theorem closesComment_qualifyFrom {tokens : List (List Char)} (ht : TokensApart tokens)
    {ns : List Char} (hns : ¬ ClosesComment ns) (hhead : ns.head? ≠ some '/') (a : Char)
    (before : Before) (cs : List Char) :
    ClosesComment (a :: qualifyFrom tokens ns before cs) ↔ ClosesComment (a :: cs) := by
  have hdot : Apart '.' := by constructor <;> decide
  have hstart : ∀ a, ¬ ClosesComment (a :: ns) := by
    intro a
    cases ns with
    | nil => exact not_closesComment_singleton a
    | cons b ns =>
      rw [closesComment_cons_cons, not_or, not_and]
      exact ⟨fun _ hb => hhead (congrArg some hb), hns⟩
  have hsome : ∀ {b : Before} {cs : List Char}, found? tokens b cs ≠ some [] :=
    fun hf => (ht [] (List.contains_iff_mem.mp (contains_of_found? hf))).1 rfl
  -- The character before the text is kept general: it may be the star that a slash would complete.
  induction before, cs using qualifyFrom.induct tokens generalizing a with
  | case1 _ hf => exact absurd hf hsome
  | case2 _ hf => rw [qualifyFrom.eq_2 _ _ _ hf]
  | case3 before t token d cs hf ih =>
    obtain ⟨rest, hrest⟩ := isPrefix_of_found? hf
    rw [List.cons_append] at hrest
    obtain ⟨rfl, rfl⟩ := List.cons.inj hrest
    obtain ⟨hne, hapart⟩ := ht _ (List.contains_iff_mem.mp (contains_of_found? hf))
    rw [List.drop_left] at ih
    rw [← List.cons_append] at hf ⊢
    have hrest : ClosesComment (qualifyFrom tokens ns ((t :: token).foldl Before.push before) rest) ↔
        ClosesComment rest :=
      (closesComment_cons_of_apart hdot _).symm.trans ((ih '.').trans (closesComment_cons_of_apart hdot _))
    calc ClosesComment (a :: qualifyFrom tokens ns before (t :: token ++ rest))
      _ ↔ ClosesComment (a :: ns ++ '.' :: (t :: token ++
            qualifyFrom tokens ns ((t :: token).foldl Before.push before) rest)) := by
        rw [qualifyFrom_of_found? hf hne, qualified, List.append_assoc]
        rfl
      _ ↔ ClosesComment rest := by
        rw [closesComment_append_cons hdot, or_iff_right (hstart a),
          closesComment_append_of_apart hapart, hrest]
      _ ↔ ClosesComment (a :: (t :: token ++ rest)) := by
        have hbehind : ClosesComment (token ++ rest) ↔ ClosesComment rest :=
          closesComment_append_of_apart (fun c hc => hapart c (List.mem_cons_of_mem _ hc)) rest
        rw [List.cons_append, closesComment_cons_cons,
          or_iff_right fun h => (hapart t (List.mem_cons_self ..)).2 h.2,
          closesComment_cons_of_apart (hapart t (List.mem_cons_self ..)), hbehind]
  | case4 _ t token hf => exact absurd (List.prefix_nil.mp (isPrefix_of_found? hf)) (List.cons_ne_nil _ _)
  | case5 _ d cs hf ih => exact absurd hf hsome
  | case6 _ d cs hf ih =>
    rw [qualifyFrom.eq_6 _ _ _ _ _ hf, closesComment_cons_cons, closesComment_cons_cons]
    exact or_congr_right (ih d)

/-- Qualification neither makes an end of a comment nor takes one apart, unless the namespace begins
with a slash or tokens lie across one. -/
theorem closesComment_patch {v : Vocabulary} (hv : TokensApart v.longestFirst) {ns : String}
    (hns : ¬ ClosesComment ns.toList) (hhead : ns.toList.head? ≠ some '/') (type : String) :
    ClosesComment (v.patch ns type).toList ↔ ClosesComment type.toList := by
  have hspace : Apart ' ' := by constructor <;> decide
  rw [patch, String.toList_ofList, closesComment_trimmed, ← closesComment_cons_of_apart hspace,
    closesComment_qualifyFrom hv hns hhead, closesComment_cons_of_apart hspace]

end SchemaWrappers.Vocabulary
