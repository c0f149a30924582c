import SchemaWrappers.Proofs.Text.Pieces
import SchemaWrappers.Proofs.Vocabulary.Tokens

/-! How a vocabulary grows: whatever it takes in, tokens are only put behind those it has, and every
answer accounts for them. -/
namespace SchemaWrappers.Vocabulary
open Text

/-- What a vocabulary takes in at one time. -/
inductive Intake where
  | token (t : String)
  | tokens (ts : List String)
  | options (text : String)
  | constructors (methods : List String)

/-- What is answered to an intake. -/
inductive Answer where
  | isNew (b : Bool)
  | count (n : Nat)
  | added (ts : List String)

def take (v : Vocabulary) : Intake → Vocabulary × Answer
  | .token t => ((v.add t).1, .isNew (v.add t).2)
  | .tokens ts => ((v.addAll ts).1, .count (v.addAll ts).2)
  | .options text => ((v.addOptions text).1, .added (v.addOptions text).2)
  | .constructors ms => ((v.addConstructors ms).1, .added (v.addConstructors ms).2)

def grown (v : Vocabulary) (is : List Intake) : Vocabulary := is.foldl (fun v i => (v.take i).1) v

def Intake.candidates : Intake → List String
  | token t => [t]
  | tokens ts => ts
  | options text => optionsOf text
  | constructors ms => ms.map constructorOf

/-- The answer accounts for the tokens that an intake has put behind the others. -/
def Answer.Tells (new : List String) : Answer → Prop
  | isNew b => new.length = if b then 1 else 0
  | count n => new.length = n
  | added ts => ts.map trim = new

/-- Tokens are there once, none is empty, and none begins or ends with a blank. -/
structure Tidy (v : Vocabulary) : Prop where
  distinct : v.tokens.Nodup
  given : ∀ t ∈ v.tokens, t ≠ ""
  bare : ∀ t ∈ v.tokens, ∀ c : Char,
    t.toList.head? = some c ∨ t.toList.getLast? = some c → isBlank c = false

theorem Tidy.empty : Tidy {} := by
  constructor <;> simp

/-- A candidate is put behind the tokens, trimmed, if it is said to be new. -/
theorem tokens_add (v : Vocabulary) (c : String) :
    (v.add c).1.tokens = v.tokens ++ if (v.add c).2 then [trim c] else [] := by
  simp only [add]
  split
  · simp
  · simp

theorem Tidy.add {v : Vocabulary} (h : Tidy v) (c : String) : Tidy (v.add c).1 := by
  simp only [Vocabulary.add]
  split
  · exact h
  · rename_i hnew
    rw [Bool.or_eq_true, not_or, String.isEmpty_iff, contains, List.contains_iff_mem] at hnew
    obtain ⟨hne, hmem⟩ := hnew
    constructor
    · exact h.distinct.append (List.nodup_singleton _) (List.disjoint_singleton.mpr hmem)
    · intro t ht
      rcases List.mem_append.mp ht with ht | ht
      · exact h.given t ht
      · rwa [List.mem_singleton.mp ht]
    · intro t ht d hd
      rcases List.mem_append.mp ht with ht | ht
      · exact h.bare t ht d hd
      · rw [List.mem_singleton.mp ht, trim, String.toList_ofList] at hd
        exact trimBoth_ends hd

/-- Of several candidates, those that are answered are put behind the tokens, trimmed. -/
theorem tokens_addNew (v : Vocabulary) (cs : List String) :
    (v.addNew cs).1.tokens = v.tokens ++ (v.addNew cs).2.map trim := by
  induction cs generalizing v with
  | nil => simp [addNew]
  | cons c cs ih =>
    dsimp only [addNew]
    rw [ih, tokens_add, List.append_assoc]
    cases (v.add c).2
    · rfl
    · rfl

theorem Tidy.addNew {v : Vocabulary} (h : Tidy v) (cs : List String) : Tidy (v.addNew cs).1 := by
  induction cs generalizing v with
  | nil => exact h
  | cons c cs ih =>
    dsimp only [Vocabulary.addNew]
    exact ih (h.add c)

theorem Tidy.addAll {v : Vocabulary} (h : Tidy v) (ts : List String) : Tidy (v.addAll ts).1 :=
  h.addNew ts

theorem Tidy.seeded (seed : List String) : Tidy (seeded seed) := by
  rw [Vocabulary.seeded]
  exact Tidy.empty.addAll seed

theorem Tidy.take {v : Vocabulary} (h : Tidy v) (i : Intake) : Tidy (v.take i).1 := by
  cases i with
  | token t =>
    dsimp only [Vocabulary.take]
    exact h.add t
  | tokens ts => exact h.addAll ts
  | options text => exact h.addNew _
  | constructors ms => exact h.addNew _

theorem Tidy.grown {v : Vocabulary} (h : Tidy v) (is : List Intake) : Tidy (v.grown is) := by
  induction is generalizing v with
  | nil => exact h
  | cons i is ih => exact ih (h.take i)

/-- An intake puts tokens behind those that are there, and its answer accounts for them. -/
theorem take_tells (v : Vocabulary) (i : Intake) :
    ∃ new, (v.take i).1.tokens = v.tokens ++ new ∧ (v.take i).2.Tells new := by
  cases i with
  | token t =>
    dsimp only [take]
    refine ⟨_, tokens_add v t, ?_⟩
    rw [Answer.Tells]
    cases (v.add t).2
    · rfl
    · rfl
  | tokens ts => exact ⟨_, tokens_addNew v ts, List.length_map _⟩
  | options text => exact ⟨_, tokens_addNew v _, rfl⟩
  | constructors ms => exact ⟨_, tokens_addNew v _, rfl⟩

theorem mem_take {v : Vocabulary} {i : Intake} {token : String} :
    token ∈ (v.take i).1.tokens ↔ token ∈ v.tokens ∨ Admits i.candidates token := by
  cases i with
  | token t => simp only [take, mem_add, Intake.candidates, Admits, List.mem_singleton,
      exists_eq_left]
  | tokens ts => exact mem_addAll
  | options text => exact mem_addOptions
  | constructors ms => exact mem_addConstructors

/-- The tokens in the end are those from the start and those that some intake has a candidate for. -/
theorem mem_grown {v : Vocabulary} {is : List Intake} {token : String} :
    token ∈ (v.grown is).tokens ↔ token ∈ v.tokens ∨ ∃ i ∈ is, Admits i.candidates token := by
  induction is generalizing v with
  | nil => simp [grown]
  | cons i is ih =>
    change token ∈ ((v.take i).1.grown is).tokens ↔ _
    rw [ih, mem_take, or_assoc]
    simp

/-- Whatever a vocabulary is seeded with and has taken in before, an intake finds and leaves its tokens
there once, trimmed and not empty; it puts tokens behind those from before, for which its answer
accounts; and any other order of the same intakes ends in the same set of tokens. -/
theorem growth_accounted (seed : List String) (before : List Intake) (i : Intake) :
    Tidy ((seeded seed).grown before) ∧ Tidy ((seeded seed).grown (before ++ [i])) ∧
      (∃ new, ((seeded seed).grown (before ++ [i])).tokens =
          ((seeded seed).grown before).tokens ++ new ∧
        (((seeded seed).grown before).take i).2.Tells new) ∧
      ∀ others : List Intake, others.Perm (before ++ [i]) → ∀ token,
        token ∈ ((seeded seed).grown others).tokens ↔
          token ∈ ((seeded seed).grown (before ++ [i])).tokens := by
  have hv := (Tidy.seeded seed).grown before
  have hlast : (seeded seed).grown (before ++ [i]) = (((seeded seed).grown before).take i).1 := by
    rw [grown, List.foldl_append]
    rfl
  refine ⟨hv, hlast ▸ hv.take i, hlast ▸ take_tells _ i, ?_⟩
  intro others hperm token
  rw [mem_grown, mem_grown]
  simp only [hperm.mem_iff]

end SchemaWrappers.Vocabulary
