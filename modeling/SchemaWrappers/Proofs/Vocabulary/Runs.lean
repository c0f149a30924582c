import Mathlib.Data.List.Induction
import Mathlib.Data.List.SplitBy
import Mathlib.Data.List.TakeWhile
import SchemaWrappers.Proofs.Text.Pieces
import SchemaWrappers.Proofs.Vocabulary.Qualify

/-! Qualification seen run by run: a maximal run of identifier characters is qualified if it is a token
and no member access leads to it, and all other text stays as it is. -/
namespace SchemaWrappers.Vocabulary
open Text

/-- The maximal runs of identifier characters in a text, and the stretches between them. -/
def runs (cs : List Char) : List (List Char) :=
  cs.splitBy fun a b => isNameChar a == isNameChar b

/-- The pieces make up the text, each holds identifier characters only or none of them, and where two
of them meet, one kind ends and the other begins. -/
structure IsCut (cs : List Char) (ps : List (List Char)) : Prop where
  flatten : ps.flatten = cs
  nonempty : ∀ p ∈ ps, p ≠ []
  uniform : ∀ p ∈ ps, ∃ k, ∀ c ∈ p, isNameChar c = k
  maximal : ps.IsChain fun p q => ∀ a ∈ p.getLast?, ∀ b ∈ q.head?, isNameChar a ≠ isNameChar b

/-- The text ends in the dot of a member access: no other dot stands before it. -/
def endsInAccess (front : List Char) : Bool :=
  front.getLast? == some '.' && front.dropLast.getLast? != some '.'

/-- What a piece of a text becomes that `front` stands before. -/
def qualifiedPiece (v : Vocabulary) (ns front piece : List Char) : List Char :=
  if piece.all isNameChar && v.contains (String.ofList piece) && !endsInAccess front then
    qualified ns piece
  else piece

def qualifiedPieces (v : Vocabulary) (ns front : List Char) : List (List Char) → List Char
  | [] => []
  | p :: ps => qualifiedPiece v ns front p ++ qualifiedPieces v ns (front ++ p) ps

/-- What is known of the text before a place. -/
def behind (front : List Char) : Before := front.foldl Before.push {}

theorem behind_append (front cs : List Char) : behind (front ++ cs) = cs.foldl Before.push (behind front) :=
  List.foldl_append ..

theorem behind_eq (front : List Char) : behind front = ⟨front.getLast?, front.dropLast.getLast?⟩ := by
  induction front using List.reverseRecOn with
  | nil => rfl
  | append_singleton front c ih =>
    rw [behind_append, ih, List.getLast?_concat, List.dropLast_concat]
    rfl

theorem allowsName_behind (front : List Char) :
    (behind front).allowsName = (!front.getLast?.any isNameChar && !endsInAccess front) := by
  rw [behind_eq, Before.allowsName, endsInAccess]
  cases front.getLast? with
  | none => rfl
  | some c => simp [bne]

/-- Inside an identifier no name can begin. -/
theorem allowsName_push_of_name {c : Char} (hc : isNameChar c = true) (b : Before) :
    (b.push c).allowsName = false := by
  simp [Before.push, Before.allowsName, hc]

/-- Only the whole run at the head of a text can be a token that stands there. -/
theorem tokenAt_iff {cs t : List Char} (ht : ∀ c ∈ t, isNameChar c = true) :
    tokenAt cs t = true ↔ t = cs.takeWhile isNameChar := by
  constructor
  · intro h
    obtain ⟨rest, rfl⟩ := tokenAt_isPrefix h
    rw [tokenAt, Bool.and_eq_true, List.drop_left] at h
    exact (takeWhile_run ht (by simpa using h.2)).symm
  · rintro rfl
    have hrest : (cs.dropWhile isNameChar).head?.any isNameChar = false := by
      cases hd : cs.dropWhile isNameChar with
      | nil => rfl
      | cons c rest =>
        have hnot := List.head_dropWhile_not isNameChar (by rw [hd]; simp : cs.dropWhile isNameChar ≠ [])
        simpa [hd] using hnot
    have hcs : cs = cs.takeWhile isNameChar ++ cs.dropWhile isNameChar :=
      List.takeWhile_append_dropWhile.symm
    rw [tokenAt, Bool.and_eq_true]
    refine ⟨List.isPrefixOf_iff_prefix.mpr (List.takeWhile_prefix _), ?_⟩
    rw [hcs, takeWhile_run ht hrest, List.drop_left, hrest]
    rfl

section
variable {tokens : List (List Char)}

/-- The tokens are names. -/
def AreNames (tokens : List (List Char)) : Prop :=
  ∀ t ∈ tokens, t ≠ [] ∧ ∀ c ∈ t, isNameChar c = true

theorem found?_eq (ht : AreNames tokens) (b : Before) (cs : List Char) :
    found? tokens b cs =
      if b.allowsName && tokens.contains (cs.takeWhile isNameChar) then
        some (cs.takeWhile isNameChar) else none := by
  have hfind : tokens.find? (tokenAt cs) =
      if tokens.contains (cs.takeWhile isNameChar) then some (cs.takeWhile isNameChar) else none := by
    split
    · rename_i hm
      have hm := List.contains_iff_mem.mp hm
      cases hf : tokens.find? (tokenAt cs) with
      | none =>
        have := List.find?_eq_none.mp hf _ hm
        exact absurd ((tokenAt_iff (ht _ hm).2).mpr rfl) this
      | some t =>
        have hstands := List.find?_some hf
        rw [(tokenAt_iff (ht t (List.mem_of_find?_eq_some hf)).2).mp hstands]
    · rename_i hm
      rw [List.find?_eq_none]
      intro t htm hstands
      apply hm
      rw [← (tokenAt_iff (ht t htm).2).mp hstands]
      exact List.contains_iff_mem.mpr htm
  rw [found?, hfind]
  cases b.allowsName <;> rfl

theorem found?_of_not_allowsName {b : Before} (hb : b.allowsName = false) (cs : List Char) :
    found? tokens b cs = none := by
  rw [found?, hb]
  rfl

theorem qualifyFrom_nil (ht : AreNames tokens) (ns : List Char) (b : Before) :
    qualifyFrom tokens ns b [] = [] := by
  have hnone : found? tokens b [] = none := by
    rw [found?_eq ht, if_neg]
    rw [Bool.and_eq_true, not_and]
    intro _ hm
    exact (ht [] (List.contains_iff_mem.mp hm)).1 rfl
  exact qualifyFrom.eq_2 _ _ _ hnone

/-- Text between the runs is copied. -/
theorem qualifyFrom_gap (ht : AreNames tokens) (ns : List Char) {gap : List Char}
    (hg : ∀ c ∈ gap, isNameChar c = false) (b : Before) (rest : List Char) :
    qualifyFrom tokens ns b (gap ++ rest) =
      gap ++ qualifyFrom tokens ns (gap.foldl Before.push b) rest := by
  induction gap generalizing b with
  | nil => rfl
  | cons c gap ih =>
    have hc := hg c (List.mem_cons_self ..)
    have hnone : found? tokens b (c :: (gap ++ rest)) = none := by
      rw [found?_eq ht, List.takeWhile_cons_of_neg (by simp [hc]), if_neg]
      rw [Bool.and_eq_true, not_and]
      intro _ hm
      exact (ht [] (List.contains_iff_mem.mp hm)).1 rfl
    rw [List.cons_append, qualifyFrom.eq_6 _ _ _ _ _ hnone,
      ih fun c hc => hg c (List.mem_cons_of_mem _ hc)]
    rfl

theorem qualifyFrom_inside (ns : List Char) {r : List Char} (hr : ∀ c ∈ r, isNameChar c = true)
    {b : Before} (hb : b.allowsName = false) (rest : List Char) :
    qualifyFrom tokens ns b (r ++ rest) =
      r ++ qualifyFrom tokens ns (r.foldl Before.push b) rest := by
  induction r generalizing b with
  | nil => rfl
  | cons c r ih =>
    rw [List.cons_append, qualifyFrom.eq_6 _ _ _ _ _ (found?_of_not_allowsName hb _),
      ih (fun c hc => hr c (List.mem_cons_of_mem _ hc))
        (allowsName_push_of_name (hr c (List.mem_cons_self ..)) b)]
    rfl

theorem qualifyFrom_run (ht : AreNames tokens) (ns : List Char) {r rest : List Char} (hne : r ≠ [])
    (hr : ∀ c ∈ r, isNameChar c = true) (hrest : rest.head?.any isNameChar = false) (b : Before) :
    qualifyFrom tokens ns b (r ++ rest) =
      (if b.allowsName && tokens.contains r then qualified ns r else r) ++
        qualifyFrom tokens ns (r.foldl Before.push b) rest := by
  have hf := found?_eq ht b (r ++ rest)
  rw [takeWhile_run hr hrest] at hf
  split
  · rename_i hq
    rw [if_pos hq] at hf
    exact qualifyFrom_of_found? hf hne ns
  · rename_i hq
    rw [if_neg hq] at hf
    obtain ⟨c, r, rfl⟩ := List.exists_cons_of_ne_nil hne
    rw [List.cons_append] at hf ⊢
    rw [qualifyFrom.eq_6 _ _ _ _ _ hf, qualifyFrom_inside ns
      (fun c hc => hr c (List.mem_cons_of_mem _ hc))
      (allowsName_push_of_name (hr c (List.mem_cons_self ..)) b)]
    rfl

end

private theorem isChain_iff_uniform (p : List Char) :
    (p.IsChain fun a b => (isNameChar a == isNameChar b) = true) ↔ ∃ k, ∀ c ∈ p, isNameChar c = k := by
  induction p with
  | nil => simp
  | cons c p ih =>
    cases p with
    | nil => simp
    | cons d p =>
      rw [List.isChain_cons_cons, ih, beq_iff_eq]
      constructor
      · rintro ⟨hcd, k, hk⟩
        refine ⟨k, List.forall_mem_cons.mpr ⟨?_, hk⟩⟩
        rw [hcd, hk d (List.mem_cons_self ..)]
      · rintro ⟨k, hk⟩
        obtain ⟨hc, hk⟩ := List.forall_mem_cons.mp hk
        exact ⟨hc.trans (hk d (List.mem_cons_self ..)).symm, k, hk⟩

/-- There is one way to cut a text into its runs and the stretches between them. -/
theorem isCut_iff {cs : List Char} {ps : List (List Char)} : IsCut cs ps ↔ ps = runs cs := by
  rw [eq_comm, runs, List.splitBy_eq_iff]
  have hmeet (hne : ∀ p ∈ ps, p ≠ []) :
      (ps.IsChain fun p q => ∀ a ∈ p.getLast?, ∀ b ∈ q.head?, isNameChar a ≠ isNameChar b) ↔
        ps.IsChain fun p q => ∃ hp hq, (isNameChar (p.getLast hp) == isNameChar (q.head hq)) = false := by
    apply List.IsChain.iff_of_mem_imp
    intro p q hp hq
    simp [List.getLast?_eq_some_getLast (hne p hp), List.head?_eq_some_head (hne q hq), hne p hp, hne q hq]
  constructor
  · rintro ⟨hflat, hne, huni, hmax⟩
    exact ⟨hflat.symm, fun h => hne _ h rfl, fun p hp => (isChain_iff_uniform p).mpr (huni p hp),
      (hmeet hne).mp hmax⟩
  · rintro ⟨hflat, hnil, huni, hmax⟩
    have hne : ∀ p ∈ ps, p ≠ [] := fun p hp he => hnil (he ▸ hp)
    exact ⟨hflat.symm, hne, fun p hp => (isChain_iff_uniform p).mp (huni p hp), (hmeet hne).mpr hmax⟩

theorem areNames_longestFirst {v : Vocabulary}
    (hv : ∀ t ∈ v.tokens, t ≠ "" ∧ ∀ c ∈ t.toList, isNameChar c = true) : AreNames v.longestFirst := by
  intro t ht
  obtain ⟨s, hs, rfl⟩ := mem_longestFirst.mp ht
  exact ⟨by simpa using (hv s hs).1, (hv s hs).2⟩

theorem contains_longestFirst (v : Vocabulary) (t : List Char) :
    v.longestFirst.contains t = v.contains (String.ofList t) := by
  rw [Bool.eq_iff_iff, List.contains_iff_mem, mem_longestFirst, contains, List.contains_iff_mem]
  constructor
  · rintro ⟨s, hs, rfl⟩
    rwa [String.ofList_toList]
  · intro h
    exact ⟨_, h, String.toList_ofList⟩

theorem IsCut.tail {cs p : List Char} {ps : List (List Char)} (h : IsCut cs (p :: ps)) :
    IsCut ps.flatten ps :=
  ⟨rfl, (List.forall_mem_cons.mp h.nonempty).2, (List.forall_mem_cons.mp h.uniform).2, h.maximal.tail⟩

/-- The text behind a piece begins with a character of the other kind. -/
theorem IsCut.meets {cs p : List Char} {ps : List (List Char)} (h : IsCut cs (p :: ps)) :
    ∀ a ∈ p.getLast?, ∀ b ∈ ps.flatten.head?, isNameChar a ≠ isNameChar b := by
  intro a ha b hb
  cases ps with
  | nil => simp at hb
  | cons q ps =>
    obtain ⟨c, q, rfl⟩ := List.exists_cons_of_ne_nil (h.nonempty q (by simp))
    rw [List.flatten_cons, List.cons_append, List.head?_cons] at hb
    exact (List.isChain_cons_cons.mp h.maximal).1 a ha b hb

theorem qualifiedPiece_gap {v : Vocabulary} {p : List Char} (hne : p ≠ [])
    (hp : ∀ c ∈ p, isNameChar c = false) (ns front : List Char) : qualifiedPiece v ns front p = p := by
  obtain ⟨c, p, rfl⟩ := List.exists_cons_of_ne_nil hne
  simp [qualifiedPiece, hp c (List.mem_cons_self ..)]

/-- A run is qualified exactly where a name is allowed to begin. -/
theorem qualifiedPiece_run {v : Vocabulary} {p front : List Char} (hp : ∀ c ∈ p, isNameChar c = true)
    (hfront : front.getLast?.any isNameChar = false) (ns : List Char) :
    qualifiedPiece v ns front p =
      if (behind front).allowsName && v.longestFirst.contains p then qualified ns p else p := by
  rw [qualifiedPiece, List.all_eq_true.mpr hp, contains_longestFirst, allowsName_behind, hfront,
    Bool.true_and, Bool.not_false, Bool.true_and, Bool.and_comm]

/-- Going through a text from left to right does the same as going through its pieces. -/
theorem qualifyFrom_pieces {v : Vocabulary} (ht : AreNames v.longestFirst) (ns : List Char)
    {cs : List Char} {ps : List (List Char)} (hcut : IsCut cs ps) {front : List Char}
    (hfront : ∀ a ∈ front.getLast?, ∀ b ∈ cs.head?, isNameChar a ≠ isNameChar b) :
    qualifyFrom v.longestFirst ns (behind front) cs = qualifiedPieces v ns front ps := by
  induction ps generalizing front cs with
  | nil =>
    obtain rfl := hcut.flatten
    exact qualifyFrom_nil ht ns _
  | cons p ps ih =>
    obtain rfl := hcut.flatten
    have hne : p ≠ [] := hcut.nonempty p (List.mem_cons_self ..)
    have hnext : qualifyFrom v.longestFirst ns (p.foldl Before.push (behind front)) ps.flatten =
        qualifiedPieces v ns (front ++ p) ps := by
      rw [← behind_append]
      apply ih hcut.tail
      rw [List.getLast?_append_of_ne_nil _ hne]
      exact hcut.meets
    obtain ⟨k, hk⟩ := hcut.uniform p (List.mem_cons_self ..)
    rw [List.flatten_cons, qualifiedPieces, ← hnext]
    cases k with
    | false => rw [qualifyFrom_gap ht ns hk, qualifiedPiece_gap hne hk]
    | true =>
      have hbefore : front.getLast?.any isNameChar = false := by
        obtain ⟨c, p, rfl⟩ := List.exists_cons_of_ne_nil hne
        have hc := hk c (List.mem_cons_self ..)
        cases hf : front.getLast? with
        | none => rfl
        | some a => simpa [hc] using hfront a hf c rfl
      have hrest : ps.flatten.head?.any isNameChar = false := by
        have hl := hk _ (List.getLast_mem hne)
        cases hf : ps.flatten.head? with
        | none => rfl
        | some b => simpa [hl] using hcut.meets _ (List.getLast?_eq_some_getLast hne) b hf
      rw [qualifyFrom_run ht ns hne hk hrest, qualifiedPiece_run hk hbefore]

/-- A type expression is rewritten run by run: where it is cut into its maximal runs of identifier
characters and the text between them, a run is qualified exactly if it is a token and does not stand
behind the dot of a member access, and nothing else changes but for the trimming. What is found in a
text is a token, so no match is ever left as it is. -/
theorem patch_qualifies_runs {v : Vocabulary}
    (hv : ∀ t ∈ v.tokens, t ≠ "" ∧ ∀ c ∈ t.toList, isNameChar c = true) (ns value : String) :
    (∀ ps, IsCut value.toList ps ↔ ps = runs value.toList) ∧
      v.patch ns value =
        String.ofList (trimmed (qualifiedPieces v ns.toList [] (runs value.toList))) ∧
      ∀ before cs t, found? v.longestFirst before cs = some t → v.contains (String.ofList t) = true ∧
        replacement v.longestFirst ns.toList t = qualified ns.toList t := by
  refine ⟨fun ps => isCut_iff, ?_, ?_⟩
  · have hfront : ∀ a ∈ ([] : List Char).getLast?, ∀ b ∈ value.toList.head?,
        isNameChar a ≠ isNameChar b := by simp
    rw [patch, ← qualifyFrom_pieces (areNames_longestFirst hv) _ (isCut_iff.mpr rfl) hfront]
    rfl
  · intro before cs t h
    exact ⟨contains_longestFirst v t ▸ contains_of_found? h, replacement_of_found? h _⟩

/-- One token begins another; both stand behind single dots, behind a spread and inside longer names. -/
theorem spread_schema_qualified :
    (∀ t ∈ ["T", "TSchema"], t ≠ "" ∧ ∀ c ∈ t.toList, isNameChar c = true) ∧
      patch ⟨["T", "TSchema"]⟩ "typebox" " .TSchema<...TSchema[], a.T, $T, T> | TSchemas " =
        ".TSchema<...typebox.TSchema[], a.T, $T, typebox.T> | TSchemas" := by
  have hv : ∀ t ∈ ["T", "TSchema"], t ≠ "" ∧ t.toList.all isNameChar = true := by decide
  simp only [List.all_eq_true] at hv
  have hpatch := (patch_qualifies_runs (v := ⟨["T", "TSchema"]⟩) hv "typebox"
    " .TSchema<...TSchema[], a.T, $T, T> | TSchemas ").2.1
  refine ⟨hv, hpatch.trans ?_⟩
  decide

end SchemaWrappers.Vocabulary
