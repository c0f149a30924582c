import SchemaWrappers.Proofs.Vocabulary.Growth
import SchemaWrappers.Proofs.Vocabulary.Order

/-! Which options words of a text a vocabulary takes in: each that it does not have yet, where the text
has it first. -/
namespace SchemaWrappers.Vocabulary
open Text

/-- A candidate without blanks is new if it is not among the tokens. -/
theorem add_of_bare (v : Vocabulary) {c : String} (hne : c ≠ "")
    (hc : ∀ d ∈ c.toList, isBlank d = false) :
    v.add c = if c ∈ v.tokens then (v, false) else (⟨v.tokens ++ [c]⟩, true) := by
  rw [add, trim_of_forall_not_blank hc]
  simp [contains, hne]

/-- Of several such candidates, each given once, those that are not among the tokens are answered. -/
theorem addNew_of_bare (v : Vocabulary) {cs : List String} (hdistinct : cs.Nodup)
    (hcs : ∀ c ∈ cs, c ≠ "" ∧ ∀ d ∈ c.toList, isBlank d = false) :
    (v.addNew cs).2 = cs.filter (· ∉ v.tokens) := by
  induction cs generalizing v with
  | nil => rfl
  | cons c cs ih =>
    obtain ⟨hfresh, hdistinct⟩ := List.nodup_cons.mp hdistinct
    obtain ⟨⟨hne, hc⟩, hcs⟩ := List.forall_mem_cons.mp hcs
    dsimp only [addNew]
    rw [add_of_bare v hne hc]
    by_cases hmem : c ∈ v.tokens
    · rw [if_pos hmem, ih v hdistinct hcs, List.filter_cons_of_neg (by simpa using hmem)]
      rfl
    · -- Taking `c` in does not show in the rest, where it does not come again.
      have hrest : cs.filter (· ∉ v.tokens ++ [c]) = cs.filter (· ∉ v.tokens) := by
        refine List.filter_congr fun d hd => ?_
        have hdc : d ≠ c := fun he => hfresh (he ▸ hd)
        simp [hdc]
      rw [if_neg hmem, ih _ hdistinct hcs, hrest, List.filter_cons_of_pos (by simpa using hmem)]
      rfl

/-- Whatever tokens a vocabulary has, it takes in the options words of a text that are not among them,
each once and in the order in which the text has them first. Options words are the maximal runs of word
characters that end in `Options` behind at least one more character and have a space right behind them;
nothing else in the text adds a token. -/
theorem options_taken_exactly (v : Vocabulary) (text : String) :
    ∃ words : List (List Char), Lists (· < ·) (OptionsWordAt text.toList) words ∧
      (v.addOptions text).2 = (words.map String.ofList).eraseDups.filter (· ∉ v.tokens) ∧
      (v.addOptions text).1.tokens = v.tokens ++ (v.addOptions text).2 := by
  have hbare : ∀ o ∈ distinct (optionsOf text), o ≠ "" ∧ ∀ c ∈ o.toList, isBlank c = false :=
    fun o ho => bare_of_mem_optionsOf (mem_distinct.mp ho)
  have hadded : (v.addOptions text).2 = (distinct (optionsOf text)).filter (· ∉ v.tokens) :=
    addNew_of_bare v (distinct_nodup _) hbare
  refine ⟨optionsWords text.toList, lists_optionsWords text.toList, ?_, ?_⟩
  · rw [hadded, distinct_eq_eraseDups, optionsOf]
  · have htokens : (v.addOptions text).1.tokens = v.tokens ++ (v.addOptions text).2.map trim :=
      tokens_addNew v _
    rw [htokens, map_trim_of_bare]
    intro o ho
    rw [hadded] at ho
    exact (hbare o (List.mem_of_mem_filter ho)).2

/-- A longer word, a line end, a second space and a bare ending: the text has two words, of which one
is known. -/
example : (addOptions ⟨["AOptions"]⟩
    "xOptionsB AOptions  OptionsOptions Options COptions\nBOptions").2 = ["OptionsOptions"] := by
  decide +kernel

end SchemaWrappers.Vocabulary
