import SchemaWrappers.Proofs.Analysis.Answer
import SchemaWrappers.Proofs.MethodTable.Partition
import SchemaWrappers.Proofs.Vocabulary.Tokens

/-! The rendered module does not depend on the order in which the settings list files, classes and
types. -/
namespace SchemaWrappers.Analysis
open Run

/-- The settings list the same files, classes and types, in whatever order and however often, and
agree in all else. -/
structure Reordered (s t : Settings) : Prop where
  rootFiles : ∀ r, r ∈ s.rootFiles ↔ r ∈ t.rootFiles
  builders : ∀ b, b ∈ s.builders ↔ b ∈ t.builders
  internalTypes : ∀ i, i ∈ s.internalTypes ↔ i ∈ t.internalTypes
  others : t = { s with
    rootFiles := t.rootFiles, builders := t.builders, internalTypes := t.internalTypes }

variable {reader : Program.Reader} {s t : Settings} {w : World} {os os' : List Overload}

section
variable {p q : Program} (h : Reordered s t)
  (hp : answer (Program.loadWith reader s.rootFiles) w = .ok p)
  (hq : answer (Program.loadWith reader t.rootFiles) w = .ok q)
include h hp hq

theorem mem_rootSources_congr (src : Source) : src ∈ p.rootSources ↔ src ∈ q.rootSources := by
  rw [Program.mem_rootSources_of_load hp, Program.mem_rootSources_of_load hq]
  simp only [h.rootFiles]

/-- The two vocabularies have the same tokens, in whatever order they took them in. -/
theorem tokens_congr (hsame : MethodTable.SameByName (overloadsIn s p) (overloadsIn t q))
    (token : String) :
    token ∈ (vocabularyOf s p (methodNames (overloadsIn s p))).1.tokens ↔
      token ∈ (vocabularyOf t q (methodNames (overloadsIn t q))).1.tokens := by
  have hnames : methodNames (overloadsIn s p) = methodNames (overloadsIn t q) := hsame.names _
  rw [mem_vocabularyOf, mem_vocabularyOf, hnames, Vocabulary.admits_congr h.internalTypes]
  simp only [mem_rootSources_congr h hp hq]

theorem render_ofMethods_congr
    (hsame : MethodTable.SameByName (overloadsIn s p) (overloadsIn t q)) (ms : List Method) :
    (ofMethods s p ms).render = (ofMethods t q ms).render := by
  have htokens := tokens_congr h hp hq hsame
  have htemplate : t.template = s.template := by rw [h.others]
  have hlibrary : (ofMethods t q ms).library = (ofMethods s p ms).library := by
    rw [library, library, ofMethods, ofMethods, h.others]
  rw [render, render, hlibrary]
  exact htemplate ▸ Rendering.render_congr htokens _ _ _

end

/-- Settings that differ only in the order and the repetition of the files, classes and types they
list render the same text if all files load and each name has the same overloads in order: the
analyses fail alike or render by one and the same run, so that runs as a whole answer the same unless
their template shows what they record. However the set of names is enumerated, it is sorted into the
same list. -/
theorem render_order_independent (h : Reordered s t) (hs : collected reader s w = .ok os)
    (ht : collected reader t w = .ok os') (hsame : MethodTable.SameByName os os') :
    (answer (ofSettingsWith reader s) w).map render =
        (answer (ofSettingsWith reader t) w).map render ∧
      (Rendering.LogApart w s.template →
        answer (do (← ofSettingsWith reader s).render) w =
          answer (do (← ofSettingsWith reader t).render) w) ∧
      ∀ ns : List String, ns.Nodup ∧ (∀ n, n ∈ ns ↔ ∃ o ∈ os, o.name = n) →
        ns.mergeSort (MethodTable.nameLe Text.fold) = methodNames os' := by
  obtain ⟨p, hp, rfl⟩ := collected_eq_ok hs
  obtain ⟨q, hq, rfl⟩ := collected_eq_ok ht
  have hrender : (answer (ofSettingsWith reader s) w).map render =
      (answer (ofSettingsWith reader t) w).map render := by
    rw [answer_ofSettingsWith hp, answer_ofSettingsWith hq, ← hsame.buildMethods]
    cases buildMethods (overloadsIn s p) with
    | error e => rfl
    | ok ms => exact congrArg Except.ok (render_ofMethods_congr h hp hq hsame ms)
  refine ⟨hrender, ?_, ?_⟩
  · intro hlog
    have htemplate : t.template = s.template := by rw [h.others]
    rw [answer_rendered hp hlog, answer_rendered hq (htemplate ▸ hlog), hrender]
  · rintro ns ⟨hd, hns⟩
    exact (MethodTable.mergeSort_eq_names hd hns).trans (hsame.names _)

def letterTree : Syntax.Node where
  kind := "program"
  stop := 14
  children := [part none "class_declaration" 0 14 [
    mark "class" 0 5, part "name" "type_identifier" 6 7 [],
    part "body" "class_body" 7 14 [mark "\x7b" 7 8,
      part none "method_signature" 8 13 [part "name" "property_identifier" 8 9 [],
        part "parameters" "formal_parameters" 9 11 [mark "(" 9 10, mark ")" 10 11],
        part "return_type" "type_annotation" 11 13 [mark ":" 11 12,
          part none "type_identifier" 12 13 []]],
      mark "\x7d" 13 14]]]
where
  mark (kind : String) (start stop : Nat) : Syntax.Node := { kind, start, stop, named := false }
  part (field : Option String) (kind : String) (start stop : Nat) (children : List Syntax.Node) :
      Syntax.Node := { kind, start, stop, field, children }

/-- A world with two classes of one letter in files of their own. -/
def letterWorld : World where
  place := { here := ⟨.top, []⟩, home := ⟨.top, []⟩ }
  tree := ⟨[(["a"], .file (Utf8.encode "class A\x7bm():T\x7d".toList)),
    (["b"], .file (Utf8.encode "class B\x7bn():T\x7d".toList))]⟩

def letterSettings (files builders types : List String) : Settings :=
  { Settings.defaults ⟨.top, []⟩ with
    rootFiles := files.map Path.ofText, builders := builders, internalTypes := types }

def letterOverload (owner name : String) : Overload := { owner, name, returns := some "T" }

theorem render_of_two_letters :
    let reader : Program.Reader := fun _ => ⟨letterTree, false⟩
    let s := letterSettings ["a", "b"] ["A", "B"] ["X", "T"]
    let t := letterSettings ["b", "a", "b"] ["B", "A"] ["T", "X", "T"]
    collected reader s letterWorld = .ok [letterOverload "A" "m", letterOverload "B" "n"] ∧
      collected reader t letterWorld = .ok [letterOverload "B" "n", letterOverload "A" "m"] ∧
      answer (do (← ofSettingsWith reader s).render) letterWorld =
        answer (do (← ofSettingsWith reader t).render) letterWorld := by
  intro reader s t
  have hs : collected reader s letterWorld =
      .ok [letterOverload "A" "m", letterOverload "B" "n"] := by decide +kernel
  have ht : collected reader t letterWorld =
      .ok [letterOverload "B" "n", letterOverload "A" "m"] := by decide +kernel
  have hsame : MethodTable.SameByName [letterOverload "A" "m", letterOverload "B" "n"]
      [letterOverload "B" "n", letterOverload "A" "m"] := by
    intro n
    by_cases hm : "m" = n
    · subst hm
      decide
    · by_cases hn : "n" = n
      · subst hn
        decide
      · simp [letterOverload, hm, hn]
  have h : Reordered s t := by
    refine ⟨fun r => ?_, fun b => ?_, fun i => ?_, rfl⟩
    · simp only [s, t, letterSettings, List.map_cons, List.map_nil, List.mem_cons, List.not_mem_nil]
      tauto
    · simp [s, t, letterSettings, or_comm]
    · simp [s, t, letterSettings, or_comm]
  exact ⟨hs, ht, (render_order_independent h hs ht hsame).2.1 (Rendering.logApart_of_no_file rfl _)⟩

end SchemaWrappers.Analysis
