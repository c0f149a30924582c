import SchemaWrappers.Proofs.Analysis.OrderIndependence
import SchemaWrappers.Proofs.Vocabulary.Order

/-! Which tokens the vocabulary of an analysis has, and in which order. -/
namespace SchemaWrappers.Analysis
open Run Vocabulary

variable {reader : Program.Reader} {s : Settings} {w : World} {p : Program}

/-- The root sources of a program are read once each, in the order in which the settings first name
them. -/
theorem rootSources_in_order (hp : answer (Program.loadWith reader s.rootFiles) w = .ok p) :
    ∃ paths, List.Forall₂ (fun r q => answer (Program.normalised r) w = .ok q) s.rootFiles paths ∧
      List.Forall₂ (fun q src => answer (Program.readSource reader q) w = .ok src)
        paths.eraseDups p.rootSources := by
  obtain ⟨paths, hroots, hread, -⟩ := Program.load_eq_ok hp
  rw [distinct_eq_eraseDups, ← Program.rootSources_of_load hp] at hread
  exact ⟨paths, hroots, hread⟩

theorem exists_analysis_iff (hp : answer (Program.loadWith reader s.rootFiles) w = .ok p) :
    (∃ a, answer (ofSettingsWith reader s) w = .ok a) ↔ ∀ o ∈ overloadsIn s p, o.name ≠ "" := by
  rw [answer_ofSettingsWith hp]
  by_cases h : ∀ o ∈ overloadsIn s p, o.name ≠ ""
  · rw [buildMethods, MethodTable.methods_of_ne_empty _ h]
    exact iff_of_true ⟨_, rfl⟩ h
  · refine iff_of_false ?_ h
    push Not at h
    rw [buildMethods, MethodTable.methods_eq_error_iff.mpr ⟨h, rfl⟩]
    rintro ⟨a, ha⟩
    cases ha

theorem vocabulary_of_ofSettingsWith {a : Analysis}
    (hp : answer (Program.loadWith reader s.rootFiles) w = .ok p)
    (ha : answer (ofSettingsWith reader s) w = .ok a) :
    a.vocabulary = (vocabularyOf s p (methodNames (overloadsIn s p))).1 := by
  rw [answer_ofSettingsWith hp, mapError_eq_ok_iff, map_eq_ok_iff] at ha
  obtain ⟨ms, -, rfl⟩ := ha
  rfl

/-- Where the files load and names of methods have no blanks in them, the vocabulary of an analysis has
for its tokens what is offered to it, each once and where it comes first: the names known anyway, those
of the settings, the options words of the root sources, and the constructors of the methods in
alphabetical order. -/
theorem vocabulary_contents (hp : answer (Program.loadWith reader s.rootFiles) w = .ok p)
    (hnames : ∀ o ∈ overloadsIn s p, ∀ c ∈ o.name.toList, Text.isBlank c = false) :
    (∃ paths, List.Forall₂ (fun r q => answer (Program.normalised r) w = .ok q) s.rootFiles paths ∧
        List.Forall₂ (fun q src => answer (Program.readSource reader q) w = .ok src)
          paths.eraseDups p.rootSources) ∧
      (∀ text : String,
        Lists (· < ·) (fun i o => OptionsWordAt text.toList i o.toList) (optionsOf text)) ∧
      (methodNames (overloadsIn s p)).Pairwise (MethodTable.NameLt Text.fold) ∧
      (∀ n, n ∈ methodNames (overloadsIn s p) ↔ ∃ o ∈ overloadsIn s p, o.name = n) ∧
      ((∃ a, answer (ofSettingsWith reader s) w = .ok a) ↔ ∀ o ∈ overloadsIn s p, o.name ≠ "") ∧
      ∀ a, answer (ofSettingsWith reader s) w = .ok a → a.vocabulary.tokens =
        (base ++ offered s.internalTypes ++ (p.rootSources.flatMap fun src => optionsOf src.text) ++
          (methodNames (overloadsIn s p)).map ("T" ++ ·)).eraseDups := by
  refine ⟨rootSources_in_order hp, fun text => ?_, MethodTable.names_increasing _ _,
    fun n => MethodTable.mem_names, exists_analysis_iff hp, fun a ha => ?_⟩
  · refine ((lists_optionsWords text.toList).map String.ofList).congr fun i o => ?_
    constructor
    · rintro ⟨cs, h, rfl⟩
      rwa [String.toList_ofList]
    · exact fun h => ⟨o.toList, h, String.ofList_toList⟩
  · have hblank : ∀ n ∈ methodNames (overloadsIn s p), ∀ c ∈ n.toList, Text.isBlank c = false := by
      intro n hn
      obtain ⟨o, ho, rfl⟩ := MethodTable.mem_names.mp hn
      exact hnames o ho
    rw [vocabulary_of_ofSettingsWith hp ha, tokens_vocabularyOf hblank, distinct_eq_eraseDups]
    rfl

/-- A world with two classes in files of their own, and options words behind them. -/
def optionsWorld : World where
  place := { here := ⟨.top, []⟩, home := ⟨.top, []⟩ }
  tree := ⟨[(["a"], .file (Utf8.encode "class A\x7bm():T\x7d AOptions Options TmOptions,".toList)),
    (["b"], .file (Utf8.encode "class B\x7bn():T\x7d TmOptions  AOptions XOptions".toList))]⟩

/-- A type of the settings is trimmed, a constructor is named by the settings before its method, and
an options word is met again in the second file. -/
theorem vocabulary_of_two_letters :
    let reader : Program.Reader := fun _ => ⟨letterTree, false⟩
    let s := letterSettings ["a", "b", "a"] ["A", "B"] [" Tn ", "Static", "\t", "X"]
    ∃ a, answer (ofSettingsWith reader s) optionsWorld = .ok a ∧
      a.vocabulary.tokens = base ++ ["Tn", "X", "AOptions", "TmOptions", "Tm"] := by
  intro reader s
  have hprogram : (answer (Program.loadWith reader s.rootFiles) optionsWorld).map (fun p =>
      (overloadsIn s p, p.rootSources.flatMap fun src => optionsOf src.text)) =
      .ok ([letterOverload "A" "m", letterOverload "B" "n"],
        ["AOptions", "TmOptions", "AOptions"]) := by decide +kernel
  obtain ⟨p, hp, hparts⟩ := map_eq_ok_iff.mp hprogram
  obtain ⟨hos, hwords⟩ := Prod.mk.inj hparts
  have hnames : ∀ o ∈ overloadsIn s p, ∀ c ∈ o.name.toList, Text.isBlank c = false := by
    rw [hos]
    have hblank : ([letterOverload "A" "m", letterOverload "B" "n"].flatMap fun o => o.name.toList).any
        Text.isBlank = false := by decide
    intro o ho c hc
    simpa using List.any_eq_false.mp hblank c (List.mem_flatMap.mpr ⟨o, ho, hc⟩)
  obtain ⟨-, -, -, -, hmade, htokens⟩ := vocabulary_contents hp hnames
  obtain ⟨a, ha⟩ := hmade.mpr (by rw [hos]; decide +kernel)
  have hsorted : methodNames [letterOverload "A" "m", letterOverload "B" "n"] = ["m", "n"] :=
    List.mergeSort_of_pairwise (by decide +kernel)
  refine ⟨a, ha, (htokens a ha).trans ?_⟩
  rw [hwords, hos, hsorted, ← distinct_eq_eraseDups]
  decide +kernel

end SchemaWrappers.Analysis
