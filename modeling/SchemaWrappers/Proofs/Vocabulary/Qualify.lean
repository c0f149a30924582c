import Mathlib.Data.List.Infix
import SchemaWrappers.Proofs.Firsts
import SchemaWrappers.Vocabulary.Qualify

/-! Qualification takes the longest token at each place, so it depends on which tokens there are and
not on their order. -/
namespace SchemaWrappers.Vocabulary

/-- The longest of the tokens that stand at the head of a text. -/
structure Longest (tokens : List (List Char)) (cs token : List Char) : Prop where
  mem : token ∈ tokens
  stands : tokenAt cs token = true
  longest : ∀ t ∈ tokens, tokenAt cs t = true → t.length ≤ token.length

theorem tokenAt_isPrefix {cs token : List Char} (h : tokenAt cs token = true) : token <+: cs := by
  rw [tokenAt, Bool.and_eq_true] at h
  exact List.isPrefixOf_iff_prefix.mp h.1

/-- Two tokens of one length cannot stand at the same head. -/
theorem Longest.unique {tokens : List (List Char)} {cs t u : List Char}
    (ht : Longest tokens cs t) (hu : Longest tokens cs u) : t = u := by
  have hle : t.length ≤ u.length := hu.longest t ht.mem ht.stands
  have hge : u.length ≤ t.length := ht.longest u hu.mem hu.stands
  have hprefix : t <+: u :=
    List.prefix_of_prefix_length_le (tokenAt_isPrefix ht.stands) (tokenAt_isPrefix hu.stands) hle
  exact hprefix.eq_of_length (Nat.le_antisymm hle hge)

theorem Longest.congr {tokens tokens' : List (List Char)} {cs t : List Char}
    (h : ∀ u, u ∈ tokens ↔ u ∈ tokens') (ht : Longest tokens cs t) : Longest tokens' cs t :=
  ⟨(h t).mp ht.mem, ht.stands, fun u hu => ht.longest u ((h u).mpr hu)⟩

/-- Among tokens of falling length the first that stands at a head is the longest one. -/
theorem find?_eq_some_iff_longest {tokens : List (List Char)}
    (hs : tokens.Pairwise fun a b => b.length ≤ a.length) {cs t : List Char} :
    tokens.find? (tokenAt cs) = some t ↔ Longest tokens cs t := by
  have hfound : ∀ u, tokens.find? (tokenAt cs) = some u → Longest tokens cs u := by
    intro u hu
    obtain ⟨hstands, front, back, rfl, hfront⟩ := List.find?_eq_some_iff_append.mp hu
    refine ⟨by simp, hstands, fun x hx hxs => ?_⟩
    -- What is tried earlier does not stand here, and what is tried later is no longer.
    obtain ⟨-, hback, -⟩ := List.pairwise_append.mp hs
    rcases List.mem_append.mp hx with hx | hx
    · simpa [hxs] using hfront x hx
    · rcases List.mem_cons.mp hx with rfl | hx
      · exact Nat.le_refl _
      · exact (List.pairwise_cons.mp hback).1 x hx
  refine ⟨hfound t, fun ht => ?_⟩
  cases hu : tokens.find? (tokenAt cs) with
  | none => exact absurd ht.stands (by simpa using List.find?_eq_none.mp hu t ht.mem)
  | some u => rw [(hfound u hu).unique ht]

theorem longestFirst_sorted (v : Vocabulary) :
    v.longestFirst.Pairwise fun a b => b.length ≤ a.length := by
  have h := @List.pairwise_mergeSort _ (fun a b : List Char => decide (b.length ≤ a.length))
    (fun a b c hab hbc => by simp only [decide_eq_true_eq] at *; omega)
    (fun a b => by simp only [Bool.or_eq_true, decide_eq_true_eq]; omega)
    (v.tokens.map String.toList)
  exact h.imp fun hab => by simpa using hab

theorem mem_longestFirst {v : Vocabulary} {t : List Char} :
    t ∈ v.longestFirst ↔ ∃ s ∈ v.tokens, s.toList = t := by
  rw [longestFirst, List.mem_mergeSort, List.mem_map]

/-- Two vocabularies with the same tokens find the same token at every head. -/
theorem find?_longestFirst_congr {v v' : Vocabulary} (h : ∀ s, s ∈ v.tokens ↔ s ∈ v'.tokens)
    (cs : List Char) :
    v.longestFirst.find? (tokenAt cs) = v'.longestFirst.find? (tokenAt cs) := by
  have hmem : ∀ t, t ∈ v.longestFirst ↔ t ∈ v'.longestFirst := by
    intro t
    simp only [mem_longestFirst, h]
  apply Option.ext
  intro t
  rw [find?_eq_some_iff_longest v.longestFirst_sorted,
    find?_eq_some_iff_longest v'.longestFirst_sorted]
  exact ⟨.congr hmem, .congr fun u => (hmem u).symm⟩

theorem contains_of_found? {tokens : List (List Char)} {before : Before} {cs t : List Char}
    (h : found? tokens before cs = some t) : tokens.contains t = true := by
  unfold found? at h
  split at h
  · exact List.contains_iff_mem.mpr (List.mem_of_find?_eq_some h)
  · cases h

theorem isPrefix_of_found? {tokens : List (List Char)} {before : Before} {cs t : List Char}
    (h : found? tokens before cs = some t) : t <+: cs := by
  unfold found? at h
  split at h
  · exact tokenAt_isPrefix (List.find?_some h)
  · cases h

theorem replacement_of_found? {tokens : List (List Char)} {before : Before} {cs t : List Char}
    (h : found? tokens before cs = some t) (ns : List Char) :
    replacement tokens ns t = qualified ns t := by
  rw [replacement, if_pos (contains_of_found? h)]

theorem qualifyFrom_of_found? {tokens : List (List Char)} {before : Before} {t rest : List Char}
    (hf : found? tokens before (t ++ rest) = some t) (hne : t ≠ []) (ns : List Char) :
    qualifyFrom tokens ns before (t ++ rest) =
      qualified ns t ++ qualifyFrom tokens ns (t.foldl Before.push before) rest := by
  obtain ⟨c, t, rfl⟩ := List.exists_cons_of_ne_nil hne
  have hdrop : (t ++ rest).drop t.length = rest := List.drop_left
  rw [List.cons_append] at hf ⊢
  rw [qualifyFrom.eq_3 _ _ _ _ _ _ _ hf, replacement_of_found? hf, hdrop]

theorem qualifyFrom_congr {tokens tokens' : List (List Char)}
    (h : ∀ cs, tokens.find? (tokenAt cs) = tokens'.find? (tokenAt cs)) (ns : List Char)
    (before : Before) (cs : List Char) :
    qualifyFrom tokens ns before cs = qualifyFrom tokens' ns before cs := by
  have hfound : ∀ {b : Before} {cs : List Char} {x : Option (List Char)},
      found? tokens b cs = x → found? tokens' b cs = x := by
    intro b cs x hx
    rwa [found?, ← h, ← found?]
  have hsame : ∀ {b : Before} {cs t : List Char}, found? tokens b cs = some t →
      replacement tokens ns t = replacement tokens' ns t := by
    intro b cs t ht
    rw [replacement_of_found? ht, replacement_of_found? (hfound ht)]
  induction before, cs using qualifyFrom.induct tokens with
  | case1 _ hf => rw [qualifyFrom.eq_1 _ _ _ hf, qualifyFrom.eq_1 _ _ _ (hfound hf), hsame hf]
  | case2 _ hf => rw [qualifyFrom.eq_2 _ _ _ hf, qualifyFrom.eq_2 _ _ _ (hfound hf)]
  | case3 _ _ _ _ _ hf ih =>
    rw [qualifyFrom.eq_3 _ _ _ _ _ _ _ hf, qualifyFrom.eq_3 _ _ _ _ _ _ _ (hfound hf), hsame hf, ih]
  | case4 _ _ _ hf =>
    rw [qualifyFrom.eq_4 _ _ _ _ _ hf, qualifyFrom.eq_4 _ _ _ _ _ (hfound hf), hsame hf]
  | case5 _ _ _ hf ih =>
    rw [qualifyFrom.eq_5 _ _ _ _ _ hf, qualifyFrom.eq_5 _ _ _ _ _ (hfound hf), hsame hf, ih]
  | case6 _ _ _ hf ih =>
    rw [qualifyFrom.eq_6 _ _ _ _ _ hf, qualifyFrom.eq_6 _ _ _ _ _ (hfound hf), ih]

/-- What a type expression becomes depends on the set of tokens only. -/
theorem patch_congr {v v' : Vocabulary} (h : ∀ s, s ∈ v.tokens ↔ s ∈ v'.tokens) :
    v.patch = v'.patch := by
  funext ns value
  rw [patch, patch, qualifyFrom_congr (find?_longestFirst_congr h)]

theorem mem_longestFirst_ofTokens {tokens : List String} {t : List Char} :
    t ∈ (ofTokens tokens).longestFirst ↔ t ∈ tokens.map String.toList := by
  simp only [mem_longestFirst, ofTokens, mem_distinct, List.mem_map]

/-- What is found at a place is the longest of the given tokens that stands there. -/
theorem found?_longestFirst_iff {tokens : List String} {before : Before} {cs t : List Char} :
    found? (ofTokens tokens).longestFirst before cs = some t ↔
      before.allowsName = true ∧ Longest (tokens.map String.toList) cs t := by
  have hlongest : Longest (ofTokens tokens).longestFirst cs t ↔
      Longest (tokens.map String.toList) cs t :=
    ⟨.congr fun _ => mem_longestFirst_ofTokens, .congr fun _ => mem_longestFirst_ofTokens.symm⟩
  rw [← hlongest, ← find?_eq_some_iff_longest (longestFirst_sorted _), found?]
  split <;> simp [*]

/-- Two lists of the same tokens patch alike, whatever their order and their repetitions: at every
place both find the longest of these tokens that stands there. -/
theorem patch_of_same_tokens {xs ys : List String} (h : ∀ t, t ∈ xs ↔ t ∈ ys) (ns value : String) :
    (∀ before cs t, found? (ofTokens xs).longestFirst before cs = some t ↔
      before.allowsName = true ∧ Longest (ys.map String.toList) cs t) ∧
    (ofTokens xs).patch ns value = (ofTokens ys).patch ns value := by
  have htokens : ∀ t, t ∈ (ofTokens xs).tokens ↔ t ∈ (ofTokens ys).tokens := by
    intro t
    rw [ofTokens, ofTokens, mem_distinct, mem_distinct, h]
  have hfind := find?_longestFirst_congr htokens
  refine ⟨fun before cs t => ?_, by rw [patch_congr htokens]⟩
  rw [← found?_longestFirst_iff, found?, found?, hfind]

/-- Tokens that begin alike, one of them empty, and one with a character that patterns read
otherwise. -/
theorem patch_of_overlapping_tokens :
    let xs := ["T", "", "T.S", "T S", "a|b"]
    let ys := ["a|b", "T S", "T", "T.S", "", "T"]
    (∀ t, t ∈ xs ↔ t ∈ ys) ∧
      found? (ofTokens xs).longestFirst {} "T.S | T a|b".toList = some "T.S".toList ∧
      (ofTokens xs).patch "ns" "T.S | T a|b" = (ofTokens ys).patch "ns" "T.S | T a|b" := by
  intro xs ys
  have hsame : ∀ t, t ∈ xs ↔ t ∈ ys := by
    intro t
    simp only [xs, ys, List.mem_cons, List.not_mem_nil]
    tauto
  have hlongest : Longest (ys.map String.toList) "T.S | T a|b".toList "T.S".toList :=
    ⟨by decide, by decide, by decide⟩
  obtain ⟨hfound, hpatch⟩ := patch_of_same_tokens hsame "ns" "T.S | T a|b"
  exact ⟨hsame, (hfound _ _ _).mpr ⟨rfl, hlongest⟩, hpatch⟩

end SchemaWrappers.Vocabulary
