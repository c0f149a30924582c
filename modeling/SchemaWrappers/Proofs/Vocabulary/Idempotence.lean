import SchemaWrappers.Proofs.Text.Kinds
import SchemaWrappers.Proofs.Vocabulary.Runs

/-! Qualification is done once: in a text that has been gone through, every token stands behind the dot
of a member access, so that going through it again changes nothing. -/
namespace SchemaWrappers

/-- Two places that look the same to any text behind them. -/
structure Before.Alike (b b' : Before) : Prop where
  here : b.allowsName = b'.allowsName
  next : ∀ c, (b.push c).allowsName = (b'.push c).allowsName

namespace Before
variable {b b' : Before}

/-- Only two characters back count, so places that look the same go on to do so. -/
theorem Alike.push (h : Alike b b') (c : Char) : Alike (b.push c) (b'.push c) :=
  ⟨h.next c, fun _ => rfl⟩

theorem Alike.foldl_push (h : Alike b b') (cs : List Char) :
    Alike (cs.foldl Before.push b) (cs.foldl Before.push b') := by
  induction cs generalizing b b' with
  | nil => exact h
  | cons c cs ih => exact ih (h.push c)

end Before

namespace Vocabulary
open Text Before

/-- Behind an identifier it does not matter what came before it. -/
theorem alike_foldl_push {r : List Char} (hne : r ≠ []) (hr : ∀ c ∈ r, isNameChar c = true)
    (b b' : Before) : Alike (r.foldl Before.push b) (r.foldl Before.push b') := by
  obtain ⟨r, c, rfl⟩ := (List.eq_nil_or_concat r).resolve_left hne
  have hc : isNameChar c = true := hr c (by simp)
  rw [List.concat_eq_append, List.foldl_append, List.foldl_append]
  refine ⟨?_, fun d => rfl⟩
  exact (allowsName_push_of_name hc _).trans (allowsName_push_of_name hc _).symm

theorem allowsName_access {r : List Char} (hne : r ≠ []) (hr : ∀ c ∈ r, isNameChar c = true)
    (b : Before) : ((r.foldl Before.push b).push '.').allowsName = false := by
  obtain ⟨r, c, rfl⟩ := (List.eq_nil_or_concat r).resolve_left hne
  have hc : c ≠ '.' := by
    rintro rfl
    exact absurd (hr '.' (by simp)) (by decide)
  rw [List.concat_eq_append, List.foldl_append]
  simp [Before.push, Before.allowsName, hc]

section
variable {tokens : List (List Char)}

theorem found?_alike {b b' : Before} (h : Alike b b') (cs : List Char) :
    found? tokens b cs = found? tokens b' cs := by
  rw [found?, found?, h.here]

theorem qualifyFrom_alike (ns : List Char) {b b' : Before} (h : Alike b b') (cs : List Char) :
    qualifyFrom tokens ns b cs = qualifyFrom tokens ns b' cs := by
  induction b, cs using qualifyFrom.induct tokens generalizing b' with
  | case1 b hf =>
    rw [qualifyFrom.eq_1 _ _ _ hf, qualifyFrom.eq_1 _ _ _ (found?_alike h _ ▸ hf)]
  | case2 b hf =>
    rw [qualifyFrom.eq_2 _ _ _ hf, qualifyFrom.eq_2 _ _ _ (found?_alike h _ ▸ hf)]
  | case3 b t token d cs hf ih =>
    rw [qualifyFrom.eq_3 _ _ _ _ _ _ _ hf, qualifyFrom.eq_3 _ _ _ _ _ _ _ (found?_alike h _ ▸ hf),
      ih (h.foldl_push _)]
  | case4 b t token hf =>
    rw [qualifyFrom.eq_4 _ _ _ _ _ hf, qualifyFrom.eq_4 _ _ _ _ _ (found?_alike h _ ▸ hf)]
  | case5 b d cs hf ih =>
    rw [qualifyFrom.eq_5 _ _ _ _ _ hf, qualifyFrom.eq_5 _ _ _ _ _ (found?_alike h _ ▸ hf),
      ih (h.push d)]
  | case6 b d cs hf ih =>
    rw [qualifyFrom.eq_6 _ _ _ _ _ hf, qualifyFrom.eq_6 _ _ _ _ _ (found?_alike h _ ▸ hf),
      ih (h.push d)]

/-- Going through a text by whole identifiers, and by single characters between them. -/
@[elab_as_elim]
theorem runs_induction {motive : List Char → Prop} (nil : motive [])
    (gap : ∀ c rest, isNameChar c = false → motive rest → motive (c :: rest))
    (run : ∀ r rest, r ≠ [] → (∀ c ∈ r, isNameChar c = true) → rest.head?.any isNameChar = false →
      motive rest → motive (r ++ rest)) (cs : List Char) : motive cs := by
  induction hn : cs.length using Nat.strong_induction_on generalizing cs with
  | h n ih =>
    cases cs with
    | nil => exact nil
    | cons c cs =>
      cases hc : isNameChar c with
      | false => exact gap c cs hc (ih _ (by simp [← hn]) cs rfl)
      | true =>
        have hsplit : (c :: cs).takeWhile isNameChar ++ (c :: cs).dropWhile isNameChar = c :: cs :=
          List.takeWhile_append_dropWhile
        have hne : (c :: cs).takeWhile isNameChar ≠ [] := by simp [hc]
        have hrest : ((c :: cs).dropWhile isNameChar).head?.any isNameChar = false := by
          have := List.head?_dropWhile_not isNameChar (c :: cs)
          cases hd : ((c :: cs).dropWhile isNameChar).head? with
          | none => rfl
          | some d => simpa [hd] using this
        have hlt : ((c :: cs).dropWhile isNameChar).length < n := by
          have hlength := congrArg List.length hsplit
          have hpos := List.length_pos_of_ne_nil hne
          rw [List.length_append] at hlength
          omega
        rw [← hsplit]
        exact run _ _ hne (fun d hd => List.mem_takeWhile_imp hd) hrest (ih _ hlt _ rfl)

theorem qualifyFrom_cons (ht : AreNames tokens) (ns : List Char) {c : Char}
    (hc : isNameChar c = false) (b : Before) (rest : List Char) :
    qualifyFrom tokens ns b (c :: rest) = c :: qualifyFrom tokens ns (b.push c) rest :=
  qualifyFrom_gap ht ns (List.forall_mem_singleton.mpr hc) b rest

/-- Nothing is put before text that does not begin with an identifier. -/
theorem head?_qualifyFrom (ht : AreNames tokens) (ns : List Char) (b : Before) {rest : List Char}
    (h : rest.head?.any isNameChar = false) : (qualifyFrom tokens ns b rest).head? = rest.head? := by
  cases rest with
  | nil => rw [qualifyFrom_nil ht]
  | cons c rest => rw [qualifyFrom_cons ht ns (by simpa using h), List.head?_cons, List.head?_cons]

section
variable {ns : List Char} (ht : AreNames tokens) (hne : ns ≠ [])
  (hns : ∀ c ∈ ns, isNameChar c = true) (hout : ns ∉ tokens)
include ht hne hns hout

theorem qualifyFrom_qualified {r rest : List Char} (hr : r ≠ []) (hname : ∀ c ∈ r, isNameChar c = true)
    (hrest : rest.head?.any isNameChar = false) (b b' : Before) :
    qualifyFrom tokens ns b (qualified ns r ++ rest) =
      qualified ns r ++ qualifyFrom tokens ns (r.foldl Before.push b') rest := by
  calc qualifyFrom tokens ns b (qualified ns r ++ rest)
    _ = qualifyFrom tokens ns b (ns ++ '.' :: (r ++ rest)) := by
      rw [qualified, List.append_assoc, List.cons_append]
    _ = ns ++ '.' :: qualifyFrom tokens ns ((ns.foldl Before.push b).push '.') (r ++ rest) := by
      rw [qualifyFrom_run ht ns hne hns rfl, if_neg (by simp [hout]),
        qualifyFrom_cons ht ns (by decide)]
    _ = ns ++ '.' :: (r ++ qualifyFrom tokens ns (r.foldl Before.push b') rest) := by
      rw [qualifyFrom_run ht ns hr hname hrest, if_neg (by simp [allowsName_access hne hns]),
        qualifyFrom_alike ns (alike_foldl_push hr hname _ b')]
    _ = qualified ns r ++ qualifyFrom tokens ns (r.foldl Before.push b') rest := by
      rw [qualified, List.append_assoc, List.cons_append]

theorem qualifyFrom_qualifyFrom (b : Before) (cs : List Char) :
    qualifyFrom tokens ns b (qualifyFrom tokens ns b cs) = qualifyFrom tokens ns b cs := by
  induction cs using runs_induction generalizing b with
  | nil => rw [qualifyFrom_nil ht, qualifyFrom_nil ht]
  | gap c rest hc ih => rw [qualifyFrom_cons ht ns hc, qualifyFrom_cons ht ns hc, ih]
  | run r rest hr hname hrest ih =>
    have hagain := ih (r.foldl Before.push b)
    have hhead : (qualifyFrom tokens ns (r.foldl Before.push b) rest).head?.any isNameChar = false := by
      rw [head?_qualifyFrom ht ns _ hrest, hrest]
    rw [qualifyFrom_run ht ns hr hname hrest]
    split
    · rw [qualifyFrom_qualified ht hne hns hout hr hname hhead b b, hagain]
    · rename_i hq
      rw [qualifyFrom_run ht ns hr hname hhead, if_neg hq, hagain]

end

/-- Text without identifiers at the end is left there. -/
theorem qualifyFrom_append_gap (ht : AreNames tokens) (ns : List Char) {back : List Char}
    (hback : ∀ c ∈ back, isNameChar c = false) (b : Before) (cs : List Char) :
    qualifyFrom tokens ns b (cs ++ back) = qualifyFrom tokens ns b cs ++ back := by
  have hend : ∀ b, qualifyFrom tokens ns b back = back := by
    intro b
    have := qualifyFrom_gap ht ns hback b []
    rwa [List.append_nil, qualifyFrom_nil ht, List.append_nil] at this
  induction cs using runs_induction generalizing b with
  | nil => rw [List.nil_append, qualifyFrom_nil ht, hend, List.nil_append]
  | gap c rest hc ih =>
    rw [List.cons_append, qualifyFrom_cons ht ns hc, qualifyFrom_cons ht ns hc, ih, List.cons_append]
  | run r rest hr hname hrest ih =>
    have hhead : (rest ++ back).head?.any isNameChar = false := by
      rw [List.head?_append]
      cases hd : rest.head? with
      | some d => simpa [hd] using hrest
      | none =>
        cases back with
        | nil => rfl
        | cons c back => simpa using hback c (List.mem_cons_self ..)
    rw [List.append_assoc, qualifyFrom_run ht ns hr hname hhead, qualifyFrom_run ht ns hr hname hrest,
      ih, List.append_assoc]

end

theorem not_isNameChar_of_blank {c : Char} (h : isBlank c = true) : isNameChar c = false := by
  rw [Bool.eq_false_iff]
  intro hc
  rcases Bool.or_eq_true_iff.mp hc with hw | hd
  · rw [not_blank_of_isWord hw] at h
    cases h
  · rw [beq_iff_eq.mp hd] at h
    exact absurd h (by decide)

/-- Blanks before a text are no different from nothing before it. -/
theorem alike_blanks {front : List Char} (h : ∀ c ∈ front, isBlank c = true) :
    Alike {} (front.foldl Before.push {}) := by
  rcases List.eq_nil_or_concat front with rfl | ⟨front, c, rfl⟩
  · exact ⟨rfl, fun _ => rfl⟩
  · have hc : isBlank c = true := h c (by simp)
    have hdot : c ≠ '.' := by
      rintro rfl
      exact absurd hc (by decide)
    rw [List.concat_eq_append, List.foldl_append]
    constructor
    · simp [Before.push, Before.allowsName, not_isNameChar_of_blank hc, hdot]
    · intro d
      simp [Before.push, Before.allowsName, beq_eq_false_iff_ne.mpr hdot]

/-- It does not matter if a text is trimmed before it is gone through. -/
theorem trimmed_qualifyFrom_trimmed {tokens : List (List Char)} (ht : AreNames tokens)
    (ns cs : List Char) :
    trimmed (qualifyFrom tokens ns {} (trimmed cs)) = trimmed (qualifyFrom tokens ns {} cs) := by
  obtain ⟨front, back, he, hfront, hback⟩ := exists_append_trimBoth isBlank cs
  have hsame : qualifyFrom tokens ns {} cs =
      front ++ (qualifyFrom tokens ns {} (trimmed cs) ++ back) := by
    calc qualifyFrom tokens ns {} cs
      _ = qualifyFrom tokens ns {} (front ++ (trimmed cs ++ back)) := congrArg _ he
      _ = front ++ qualifyFrom tokens ns (front.foldl Before.push {}) (trimmed cs ++ back) :=
        qualifyFrom_gap ht ns (fun c hc => not_isNameChar_of_blank (hfront c hc)) {} _
      _ = front ++ (qualifyFrom tokens ns {} (trimmed cs) ++ back) := by
        rw [← qualifyFrom_alike ns (alike_blanks hfront),
          qualifyFrom_append_gap ht ns fun c hc => not_isNameChar_of_blank (hback c hc)]
  rw [hsame, trimmed_append_of_blank hfront hback]

/-- Patching is done once. A text that was patched is not changed by patching it again, if the
namespace is a name and no token; and behind the namespace and its dot no token is found. -/
theorem patch_idempotent {v : Vocabulary}
    (hv : ∀ t ∈ v.tokens, t ≠ "" ∧ ∀ c ∈ t.toList, isNameChar c = true) {ns : String} (hne : ns ≠ "")
    (hns : ∀ c ∈ ns.toList, isNameChar c = true) (hout : ns ∉ v.tokens) :
    (∀ value, v.patch ns (v.patch ns value) = v.patch ns value) ∧
      ∀ front rest, found? v.longestFirst (behind (front ++ (ns.toList ++ ['.']))) rest = none := by
  have ht := areNames_longestFirst hv
  have hne' : ns.toList ≠ [] := by simpa using hne
  constructor
  · intro value
    have hout' : ns.toList ∉ v.longestFirst := by
      rw [mem_longestFirst]
      rintro ⟨s, hs, he⟩
      exact hout (String.toList_inj.mp he ▸ hs)
    rw [patch, patch, String.toList_ofList, trimmed_qualifyFrom_trimmed ht,
      qualifyFrom_qualifyFrom ht hne' hns hout']
  · intro front rest
    apply found?_of_not_allowsName
    rw [behind_append, List.foldl_append]
    exact allowsName_access hne' hns _

/-- The token stands behind a spread, behind the namespace, behind a single dot and inside a longer name. -/
theorem spread_patched_once :
    (∀ t ∈ ["T"], t ≠ "" ∧ ∀ c ∈ t.toList, isNameChar c = true) ∧ "box" ≠ "" ∧
      (∀ c ∈ "box".toList, isNameChar c = true) ∧ "box" ∉ ["T"] ∧
      patch ⟨["T"]⟩ "box" " ..T<box.T | $T, .T> " = "..box.T<box.T | $T, .T>" ∧
      patch ⟨["T"]⟩ "box" "..box.T<box.T | $T, .T>" = "..box.T<box.T | $T, .T>" := by
  have hv : ∀ t ∈ ["T"], t ≠ "" ∧ t.toList.all isNameChar = true := by decide
  have hns : "box".toList.all isNameChar = true := by decide
  simp only [List.all_eq_true] at hv hns
  have hpatch : patch ⟨["T"]⟩ "box" " ..T<box.T | $T, .T> " = "..box.T<box.T | $T, .T>" := by
    decide +kernel
  have honce := (patch_idempotent (v := ⟨["T"]⟩) hv (by decide) hns (by decide)).1
    " ..T<box.T | $T, .T> "
  rw [hpatch] at honce
  exact ⟨hv, by decide, hns, by decide, hpatch, honce⟩

end Vocabulary
end SchemaWrappers
