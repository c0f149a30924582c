import SchemaWrappers.Analysis
import SchemaWrappers.Proofs.Firsts

/-! Which tokens a vocabulary grows to have: the order in which candidates come does not matter. -/
namespace SchemaWrappers.Vocabulary
open Text

/-- A candidate is taken in trimmed, and not if nothing is left of it. -/
def Admits (candidates : List String) (token : String) : Prop :=
  token ≠ "" ∧ ∃ c ∈ candidates, trim c = token

theorem admits_congr {cs cs' : List String} (h : ∀ c, c ∈ cs ↔ c ∈ cs') (token : String) :
    Admits cs token ↔ Admits cs' token := by
  simp only [Admits, h]

theorem mem_add {v : Vocabulary} {c token : String} :
    token ∈ (v.add c).1.tokens ↔ token ∈ v.tokens ∨ token ≠ "" ∧ trim c = token := by
  simp only [add]
  split
  · rename_i h
    rw [Bool.or_eq_true, String.isEmpty_iff, contains, List.contains_iff_mem] at h
    constructor
    · exact .inl
    · rintro (hv | ⟨hne, rfl⟩)
      · exact hv
      · exact h.resolve_left hne
  · rename_i h
    rw [Bool.or_eq_true, not_or, String.isEmpty_iff] at h
    rw [List.mem_append, List.mem_singleton]
    refine or_congr_right ⟨?_, fun hc => hc.2.symm⟩
    rintro rfl
    exact ⟨h.1, rfl⟩

theorem mem_addNew {v : Vocabulary} {cs : List String} {token : String} :
    token ∈ (v.addNew cs).1.tokens ↔ token ∈ v.tokens ∨ Admits cs token := by
  induction cs generalizing v with
  | nil => simp [addNew, Admits]
  | cons c cs ih =>
    dsimp only [addNew]
    rw [ih, mem_add, or_assoc]
    simp [Admits, and_or_left]

theorem mem_addAll {v : Vocabulary} {cs : List String} {token : String} :
    token ∈ (v.addAll cs).1.tokens ↔ token ∈ v.tokens ∨ Admits cs token :=
  mem_addNew

def optionsOf (text : String) : List String := (optionsWords text.toList).map String.ofList

theorem mem_addOptions {v : Vocabulary} {text token : String} :
    token ∈ (v.addOptions text).1.tokens ↔ token ∈ v.tokens ∨ Admits (optionsOf text) token := by
  rw [addOptions, mem_addNew]
  simp only [Admits, mem_distinct, optionsOf]

theorem mem_addConstructors {v : Vocabulary} {names : List String} {token : String} :
    token ∈ (v.addConstructors names).1.tokens ↔
      token ∈ v.tokens ∨ Admits (names.map constructorOf) token :=
  mem_addNew

end SchemaWrappers.Vocabulary

namespace SchemaWrappers.Analysis
open Vocabulary

theorem mem_addSources {v : Vocabulary} {ss : List Source} {token : String} :
    token ∈ (addSources v ss).1.tokens ↔
      token ∈ v.tokens ∨ ∃ s ∈ ss, Admits (optionsOf s.text) token := by
  induction ss generalizing v with
  | nil => simp [addSources]
  | cons s ss ih =>
    dsimp only [addSources]
    rw [ih, mem_addOptions, or_assoc]
    simp

/-- The tokens of a library are those known anyway, those from the settings, the options words of the
root sources, and the constructors of the methods. -/
theorem mem_vocabularyOf {s : Settings} {p : Program} {names : List String} {token : String} :
    token ∈ (vocabularyOf s p names).1.tokens ↔
      Admits base token ∨ Admits s.internalTypes token ∨
        (∃ src ∈ p.rootSources, Admits (optionsOf src.text) token) ∨
        Admits (names.map constructorOf) token := by
  dsimp only [vocabularyOf]
  rw [mem_addConstructors, mem_addSources, mem_addAll, seeded, mem_addAll]
  simp [or_assoc]

end SchemaWrappers.Analysis
