import SchemaWrappers.Proofs.Vocabulary.OptionsWords
import SchemaWrappers.Proofs.Vocabulary.Tokens

/-! The order of a vocabulary: its tokens are what it was offered, each where it was offered first. -/
namespace SchemaWrappers.Vocabulary
open Text

/-- What can be taken in of some candidates: all of them trimmed, but for those of which nothing is
left. -/
def offered (cs : List String) : List String := (cs.map trim).filter (· ≠ "")

theorem offered_append (cs ds : List String) : offered (cs ++ ds) = offered cs ++ offered ds := by
  rw [offered, List.map_append, List.filter_append]
  rfl

theorem map_trim_of_bare {cs : List String} (h : ∀ c ∈ cs, ∀ d ∈ c.toList, isBlank d = false) :
    cs.map trim = cs :=
  (List.map_congr_left fun c hc => trim_of_forall_not_blank (h c hc)).trans (List.map_id' cs)

theorem offered_eq_self {cs : List String}
    (h : ∀ c ∈ cs, c ≠ "" ∧ ∀ d ∈ c.toList, isBlank d = false) : offered cs = cs := by
  rw [offered, map_trim_of_bare fun c hc => (h c hc).2, List.filter_eq_self]
  exact fun c hc => by simpa using (h c hc).1

variable {v : Vocabulary} {xs : List String}

theorem tokens_add_eq (h : v.tokens = distinct xs) (c : String) :
    (v.add c).1.tokens = distinct (xs ++ offered [c]) := by
  have hmem : v.contains (trim c) = true ↔ trim c ∈ xs := by
    rw [contains, List.contains_iff_mem, h, mem_distinct]
  rw [add]
  by_cases he : trim c = ""
  · simp [offered, he, h]
  · have hoffered : offered [c] = [trim c] := by simp [offered, he]
    rw [hoffered, distinct_concat, ← h]
    by_cases hm : trim c ∈ xs <;> simp [he, hmem, hm]

/-- Whatever a vocabulary takes in comes behind all that it was offered before. -/
theorem tokens_addNew_eq (h : v.tokens = distinct xs) (cs : List String) :
    (v.addNew cs).1.tokens = distinct (xs ++ offered cs) := by
  induction cs generalizing v xs with
  | nil => rw [addNew, offered, List.map_nil, List.filter_nil, List.append_nil, h]
  | cons c cs ih =>
    dsimp only [addNew]
    rw [ih (tokens_add_eq h c), List.append_assoc, ← offered_append, List.singleton_append]

theorem bare_of_mem_optionsOf {text w : String} (h : w ∈ optionsOf text) :
    w ≠ "" ∧ ∀ c ∈ w.toList, isBlank c = false := by
  obtain ⟨cs, hcs, rfl⟩ := List.mem_map.mp h
  obtain ⟨i, -, -, -, -, -, hname⟩ := (lists_optionsWords text.toList).exists_of_mem hcs
  rw [String.toList_ofList]
  refine ⟨?_, fun c hc => not_blank_of_isWord (hname.word c hc)⟩
  intro he
  rw [← String.ofList_nil, String.ofList_inj] at he
  exact not_isOptionsName_nil (he ▸ hname)

theorem tokens_addOptions_eq (h : v.tokens = distinct xs) (text : String) :
    (v.addOptions text).1.tokens = distinct (xs ++ optionsOf text) := by
  have hoffered : offered (distinct (optionsOf text)) = distinct (optionsOf text) :=
    offered_eq_self fun c hc => bare_of_mem_optionsOf (mem_distinct.mp hc)
  rw [addOptions, ← optionsOf, tokens_addNew_eq h, hoffered, distinct_append_distinct]

theorem tokens_addConstructors_eq (h : v.tokens = distinct xs) {names : List String}
    (hnames : ∀ n ∈ names, ∀ c ∈ n.toList, isBlank c = false) :
    (v.addConstructors names).1.tokens = distinct (xs ++ names.map constructorOf) := by
  have hoffered : offered (names.map constructorOf) = names.map constructorOf := by
    apply offered_eq_self
    intro c hc
    obtain ⟨n, hn, rfl⟩ := List.mem_map.mp hc
    refine ⟨by simp [constructorOf], fun d hd => ?_⟩
    rw [constructorOf, String.toList_append, List.mem_append] at hd
    rcases hd with hd | hd
    · obtain rfl := List.mem_singleton.mp hd
      rfl
    · exact hnames n hn d hd
  rw [addConstructors, tokens_addNew_eq h, hoffered]

theorem tokens_seeded (seed : List String) : (seeded seed).tokens = distinct (offered seed) := by
  have hempty : ({} : Vocabulary).tokens = distinct [] := rfl
  exact tokens_addNew_eq hempty seed

/-- The names that are known anyway are offered as they are, and each once. -/
theorem offered_base : offered base = base := by decide

end SchemaWrappers.Vocabulary

namespace SchemaWrappers.Analysis
open Vocabulary

theorem tokens_addSources {v : Vocabulary} {xs : List String} (h : v.tokens = distinct xs)
    (ss : List Source) :
    (addSources v ss).1.tokens = distinct (xs ++ ss.flatMap fun s => optionsOf s.text) := by
  induction ss generalizing v xs with
  | nil => rw [addSources, List.flatMap_nil, List.append_nil, h]
  | cons s ss ih =>
    dsimp only [addSources]
    rw [ih (tokens_addOptions_eq h s.text), List.flatMap_cons, List.append_assoc]

/-- The tokens of a library in order: each stands where it was first named. -/
theorem tokens_vocabularyOf {s : Settings} {p : Program} {names : List String}
    (hnames : ∀ n ∈ names, ∀ c ∈ n.toList, Text.isBlank c = false) :
    (vocabularyOf s p names).1.tokens =
      distinct (base ++ offered s.internalTypes ++ (p.rootSources.flatMap fun s => optionsOf s.text) ++
        names.map constructorOf) := by
  have hbase : (seeded base).tokens = distinct base := by rw [tokens_seeded, offered_base]
  have hadded := tokens_addNew_eq hbase s.internalTypes
  exact tokens_addConstructors_eq (tokens_addSources hadded p.rootSources) hnames

end SchemaWrappers.Analysis
