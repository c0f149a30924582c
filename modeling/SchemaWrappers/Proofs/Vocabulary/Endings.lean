import SchemaWrappers.Proofs.Vocabulary.Idempotence

/-! How a qualified text ends: qualification puts nothing behind a name, so a text ends in marks after
it exactly if it did before. -/
namespace SchemaWrappers.Text

/-- A text that does not end in a blank keeps its end when it is trimmed. -/
theorem suffix_trimmed_iff {back cs : List Char} (hback : ∀ c ∈ back, isBlank c = false)
    (hlast : ∀ c ∈ cs.getLast?, isBlank c = false) : back <:+ trimmed cs ↔ back <:+ cs := by
  obtain ⟨front, blanks, he, hfront, hblanks⟩ := exists_append_trimBoth isBlank cs
  change cs = front ++ (trimmed cs ++ blanks) at he
  obtain rfl : blanks = [] := by
    rcases List.eq_nil_or_concat blanks with rfl | ⟨blanks, c, rfl⟩
    · rfl
    · have hc := hlast c (by rw [he]; simp)
      rw [hblanks c (by simp)] at hc
      cases hc
  rw [List.append_nil] at he
  have htrimmed : trimmed cs <:+ cs := ⟨front, he.symm⟩
  refine ⟨fun h => h.trans htrimmed, fun h => ?_⟩
  rcases List.suffix_or_suffix_of_suffix h htrimmed with h | ⟨more, hmore⟩
  · exact h
  · -- What reaches beyond the trimmed text would be blank.
    obtain ⟨start, hstart⟩ := h
    have hsplit : (start ++ more) ++ trimmed cs = front ++ trimmed cs := by
      rw [List.append_assoc, hmore, hstart, ← he]
    have hfronts := List.append_cancel_right hsplit
    obtain rfl : more = [] := by
      cases more with
      | nil => rfl
      | cons c more =>
        have hblank := hfront c (by rw [← hfronts]; simp)
        rw [hback c (by rw [← hmore]; simp)] at hblank
        cases hblank
    rw [← hmore, List.nil_append]

theorem not_blank_of_mem_getLast?_trimmed {cs : List Char} :
    ∀ c ∈ (trimmed cs).getLast?, isBlank c = false :=
  fun _ hc => trimBoth_ends (.inr hc)

end SchemaWrappers.Text

namespace SchemaWrappers.Vocabulary
open Text

section
variable {tokens : List (List Char)} (ht : AreNames tokens) (ns : List Char)
include ht

theorem getLast?_qualifyFrom (b : Before) (cs : List Char) :
    (qualifyFrom tokens ns b cs).getLast? = cs.getLast? := by
  induction cs using runs_induction generalizing b with
  | nil => rw [qualifyFrom_nil ht]
  | gap c rest hc ih => rw [qualifyFrom_cons ht ns hc, List.getLast?_cons, List.getLast?_cons, ih]
  | run r rest hr hname hrest ih =>
    have hpiece : ∀ q : Bool, (if q then qualified ns r else r).getLast? = r.getLast? := by
      intro q
      cases q with
      | false => rfl
      | true =>
        rw [if_pos rfl, qualified, List.getLast?_append_of_ne_nil _ (List.cons_ne_nil _ _),
          List.getLast?_cons_of_ne_nil hr]
    rw [qualifyFrom_run ht ns hr hname hrest, List.getLast?_append, List.getLast?_append, ih, hpiece]

theorem suffix_qualifyFrom_iff {back : List Char} (hback : ∀ c ∈ back, isNameChar c = false)
    (b : Before) (cs : List Char) : back <:+ qualifyFrom tokens ns b cs ↔ back <:+ cs := by
  constructor
  · intro h
    induction back using List.reverseRecOn generalizing cs with
    | nil => exact List.nil_suffix
    | append_singleton back c ih =>
      obtain ⟨front, hfront⟩ := h
      have hlast : cs.getLast? = some c := by
        rw [← getLast?_qualifyFrom ht ns b, ← hfront]
        simp
      obtain ⟨cs, rfl⟩ := List.getLast?_eq_some_iff.mp hlast
      have hc : ∀ d ∈ [c], isNameChar d = false := fun d hd => hback d (List.mem_append_right _ hd)
      rw [qualifyFrom_append_gap ht ns hc, ← List.append_assoc] at hfront
      obtain ⟨start, hstart⟩ := ih (fun d hd => hback d (List.mem_append_left _ hd)) cs
        ⟨front, List.append_cancel_right hfront⟩
      exact ⟨start, by rw [← List.append_assoc, hstart]⟩
  · rintro ⟨front, rfl⟩
    exact ⟨_, (qualifyFrom_append_gap ht ns hback b front).symm⟩

end

/-- A patched text ends in marks exactly if the text did before, blanks behind it apart. -/
theorem suffix_patch_iff {v : Vocabulary}
    (hv : ∀ t ∈ v.tokens, t ≠ "" ∧ ∀ c ∈ t.toList, isNameChar c = true) {back : List Char}
    (hback : ∀ c ∈ back, isNameChar c = false ∧ isBlank c = false) (ns value : String) :
    back <:+ (v.patch ns value).toList ↔ back <:+ trimmed value.toList := by
  have ht := areNames_longestFirst hv
  have hlast : ∀ c ∈ (qualifyFrom v.longestFirst ns.toList {} (trimmed value.toList)).getLast?,
      isBlank c = false := by
    rw [getLast?_qualifyFrom ht]
    exact not_blank_of_mem_getLast?_trimmed
  rw [patch, String.toList_ofList, ← trimmed_qualifyFrom_trimmed ht,
    suffix_trimmed_iff (fun c hc => (hback c hc).2) hlast,
    suffix_qualifyFrom_iff ht _ fun c hc => (hback c hc).1]

end SchemaWrappers.Vocabulary
