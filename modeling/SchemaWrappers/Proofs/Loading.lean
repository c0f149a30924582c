import SchemaWrappers.Loading
import SchemaWrappers.Proofs.Except
import SchemaWrappers.Proofs.Firsts
import SchemaWrappers.Proofs.Run
import SchemaWrappers.Proofs.Text.Utf8

/-! Loading: what a source holds of a text, and that which sources a program has depends on which paths
are named, not on how often or in what order. -/
namespace SchemaWrappers

namespace Source
variable {s : Source} {cs : List Char}

theorem slice_eq_within (h : s.data = Utf8.encode cs) (start stop : Nat) :
    s.slice start stop = String.ofList (Utf8.within start stop cs) := by
  rw [slice, h, Utf8.decodeLossy_eq_within]

theorem eq_of_sourceOf {reader : Program.Reader} {path text : String}
    (h : Program.sourceOf reader path text = .ok s) :
    s = ⟨path, text, Utf8.encode text.toList, (reader text.toList).tree⟩ := by
  simp only [Program.sourceOf] at h
  split at h
  · cases h
  · exact (Except.ok.inj h).symm

/-- The text of a node, wherever it starts and stops, is made up of the characters whose bytes all lie
within it, in order; a character that is cut is left out, and the others are as in the whole text. -/
theorem textOf_made_up_of_whole_characters {reader : Program.Reader} {path text : String}
    (h : Program.sourceOf reader path text = .ok s) :
    (Utf8.ranges 0 text.toList).map (·.1) = text.toList ∧
    (∀ c i j, (c, i, j) ∈ Utf8.ranges 0 text.toList →
      i < j ∧ (s.data.take j).drop i = String.utf8EncodeChar c) ∧
    ∀ n : Syntax.Node, s.textOf n = String.ofList
      (((Utf8.ranges 0 text.toList).filter fun r => n.start ≤ r.2.1 ∧ r.2.2 ≤ n.stop).map (·.1)) := by
  obtain rfl := eq_of_sourceOf h
  refine ⟨Utf8.map_fst_ranges .., fun c i j hr => ?_, fun n => slice_eq_within rfl ..⟩
  obtain ⟨-, hij, hbytes⟩ := Utf8.bytes_of_mem_ranges hr
  exact ⟨hij, hbytes⟩

def mixedText : String := "aé€𝄞b"

/-- Cuts within characters at both ends, in one and the same character, reversed, and behind the end. -/
theorem textOf_cut_within_characters :
    let reader : Program.Reader := fun _ => ⟨⟨"program", 0, 11, 0, true, false, none, []⟩, false⟩
    ∃ s, Program.sourceOf reader "/a" mixedText = .ok s ∧
      s.textOf { kind := "x", start := 2, stop := 9 } = "€" ∧
      s.textOf { kind := "x", start := 4, stop := 5 } = "" ∧
      s.textOf { kind := "x", start := 8, stop := 3 } = "" ∧
      s.textOf { kind := "x", start := 5, stop := 20 } = "𝄞b" := by
  intro reader
  have hs : Program.sourceOf reader "/a" mixedText =
      .ok ⟨"/a", mixedText, Utf8.encode mixedText.toList, (reader []).tree⟩ := rfl
  obtain ⟨-, -, htext⟩ := textOf_made_up_of_whole_characters hs
  refine ⟨_, hs, ?_, ?_, ?_, ?_⟩
  all_goals
    rw [htext]
    decide +kernel

end Source

namespace Program
open Run

section
variable {p : Program} {s : Source} {path : String}

/-- Where no two sources have the same path, a path finds the one that has it. -/
theorem source?_eq_some_iff (h : (p.sources.map (·.path)).Nodup) :
    p.source? path = some s ↔ s ∈ p.sources ∧ s.path = path := by
  rw [source?]
  constructor
  · intro hs
    exact ⟨List.mem_reverse.mp (List.mem_of_find?_eq_some hs), by simpa using List.find?_some hs⟩
  · rintro ⟨hs, rfl⟩
    obtain ⟨t, ht⟩ : ∃ t, p.sources.reverse.find? (·.path == s.path) = some t :=
      Option.isSome_iff_exists.mp (List.find?_isSome.mpr ⟨s, List.mem_reverse.mpr hs, beq_self_eq_true _⟩)
    have hpath : t.path = s.path := by simpa using List.find?_some ht
    rw [ht, List.inj_on_of_nodup_map h (List.mem_reverse.mp (List.mem_of_find?_eq_some ht)) hs hpath]

theorem source?_eq_none_iff : p.source? path = none ↔ path ∉ p.sources.map (·.path) := by
  simp [source?]

end

theorem reads_normalised (p : Path) : Reads (normalised p) :=
  (Reads.expand p).bind fun q => Reads.resolve q

theorem reads_readSource (reader : Reader) (p : Path) : Reads (readSource reader p) := by
  refine (Reads.readText p).bind fun r => ?_
  cases r with
  | error e => exact .throw (.source p.text e.message)
  | ok text =>
    dsimp only
    cases sourceOf reader p.text text with
    | ok s => exact .pure s
    | error e => exact .throw e

variable {reader : Reader} {roots : List Path} {w : World} {p : Program}

theorem answer_normalised (q : Path) (w : World) : answer (normalised q) w =
    (answer (expand q) w).bind fun q => answer (resolve q) w :=
  (Reads.expand q).answer_bind _ w

theorem answer_normalised_congr {w w' : World} (h : w'.place = w.place) (q : Path) :
    answer (normalised q) w' = answer (normalised q) w := by
  simp only [answer_normalised, answer_expand, answer_resolve, h]

def ofRead (reader : Reader) (q : Path) : Except ReadError String → Except Failure Source
  | .error e => .error (.source q.text e.message)
  | .ok text => sourceOf reader q.text text

theorem answer_readSource (reader : Reader) (q : Path) (w : World) :
    answer (readSource reader q) w = (answer (readText q) w).bind (ofRead reader q) := by
  rw [readSource, (Reads.readText q).answer_bind]
  refine congrArg _ (funext fun read => ?_)
  cases read with
  | error e => rfl
  | ok text =>
    dsimp only [ofRead]
    cases sourceOf reader q.text text with
    | error e => rfl
    | ok s => rfl

/-- A source that is read comes from a text that can be read where it is looked for. -/
theorem readSource_eq_ok {q : Path} {s : Source} (h : answer (readSource reader q) w = .ok s) :
    q.hasNul = false ∧ ∃ text, w.tree.readText w.place.here q = .ok text ∧
      sourceOf reader q.text text = .ok s := by
  rw [answer_readSource, answer_readText] at h
  cases hnul : q.hasNul with
  | true =>
    rw [hnul] at h
    cases h
  | false =>
    rw [hnul] at h
    cases hread : w.tree.readText w.place.here q with
    | error e =>
      rw [hread] at h
      cases h
    | ok text =>
      rw [hread] at h
      exact ⟨rfl, text, rfl, h⟩

theorem readSource_path {q : Path} {s : Source} (h : answer (readSource reader q) w = .ok s) :
    s.path = q.text := by
  obtain ⟨-, text, -, hsource⟩ := readSource_eq_ok h
  rw [Source.eq_of_sourceOf hsource]

theorem answer_loadWith (reader : Reader) (roots : List Path) (w : World) :
    answer (loadWith reader roots) w = (roots.mapM fun r => answer (normalised r) w).bind fun paths =>
      ((distinct paths).mapM fun q => answer (readSource reader q) w).bind fun sources =>
        .ok ⟨sources, (distinct paths).map (·.text)⟩ := by
  rw [loadWith, (Reads.mapM reads_normalised roots).answer_bind, Reads.answer_mapM reads_normalised]
  refine congrArg _ (funext fun paths => ?_)
  dsimp only
  rw [(Reads.mapM (reads_readSource reader) _).answer_bind,
    Reads.answer_mapM (reads_readSource reader)]
  rfl

/-- The sources of a program are read in turn from the paths that its roots are known by. -/
theorem load_eq_ok (h : answer (loadWith reader roots) w = .ok p) : ∃ paths : List Path,
    List.Forall₂ (fun r q => answer (normalised r) w = .ok q) roots paths ∧
      List.Forall₂ (fun q s => answer (readSource reader q) w = .ok s) (distinct paths) p.sources ∧
        p.roots = (distinct paths).map (·.text) := by
  rw [answer_loadWith, bind_eq_ok_iff] at h
  obtain ⟨paths, hroots, h⟩ := h
  obtain ⟨sources, hread, h⟩ := bind_eq_ok_iff.mp h
  cases h
  exact ⟨paths, mapM_eq_ok_iff.mp hroots, mapM_eq_ok_iff.mp hread, rfl⟩

theorem rootSources_of_load (h : answer (loadWith reader roots) w = .ok p) :
    p.rootSources = p.sources := by
  obtain ⟨paths, -, hread, hroots⟩ := load_eq_ok h
  rw [rootSources, List.filter_eq_self]
  intro s hs
  obtain ⟨q, hq, hqs⟩ := (mem_of_forall₂_ok hread).mp hs
  rw [isRoot, List.contains_iff_mem, hroots, readSource_path hqs]
  exact List.mem_map_of_mem hq

/-- A program has the sources that can be read where its roots lead, and no others. -/
theorem mem_rootSources_of_load (h : answer (loadWith reader roots) w = .ok p) {s : Source} :
    s ∈ p.rootSources ↔ ∃ r ∈ roots, ∃ q, answer (normalised r) w = .ok q ∧
      answer (readSource reader q) w = .ok s := by
  obtain ⟨paths, hnamed, hread, -⟩ := load_eq_ok h
  rw [rootSources_of_load h, mem_of_forall₂_ok hread]
  simp only [mem_distinct, mem_of_forall₂_ok hnamed]
  constructor
  · rintro ⟨q, ⟨r, hr, hq⟩, hs⟩
    exact ⟨r, hr, q, hq, hs⟩
  · rintro ⟨r, hr, q, hq, hs⟩
    exact ⟨q, ⟨r, hr, hq⟩, hs⟩

theorem records_loadWith (reader : Reader) (roots : List Path) :
    Records (loadWith reader roots) := by
  refine (Reads.mapM reads_normalised roots).records.bind fun paths => ?_
  refine (Reads.mapM (reads_readSource reader) _).records.bind fun sources => ?_
  exact (Records.report _).bind fun _ => .pure _

section
variable {P : Location → Prop} {w' : World} (h : w.tree.ChangedOnly P w'.tree)
  (hplace : w'.place = w.place)
include h hplace

theorem answer_readSource_changed {q : Path} {s : Source}
    (hs : answer (readSource reader q) w = .ok s)
    (hq : ∀ l, w.tree.Names w.place.here q l → ¬ P l) : answer (readSource reader q) w' = .ok s := by
  obtain ⟨hnul, text, hread, hsource⟩ := readSource_eq_ok hs
  obtain ⟨l, hl⟩ := FileTree.names_of_readText hread
  rw [answer_readSource, answer_readText, hnul, hplace, FileTree.readText_changed h hl (hq l hl), hread]
  exact hsource

theorem answer_loadWith_changed (hp : answer (loadWith reader roots) w = .ok p)
    (hroots : ∀ r ∈ roots, ∀ q, answer (normalised r) w = .ok q →
      ∀ l, w.tree.Names w.place.here q l → ¬ P l) :
    answer (loadWith reader roots) w' = .ok p := by
  rw [answer_loadWith, bind_eq_ok_iff] at hp ⊢
  simp only [answer_normalised_congr hplace]
  obtain ⟨paths, hpaths, hp⟩ := hp
  refine ⟨paths, hpaths, ?_⟩
  rw [bind_eq_ok_iff] at hp ⊢
  obtain ⟨sources, hsources, hp⟩ := hp
  refine ⟨sources, mapM_ok_of_imp hsources fun q hq s hs => ?_, hp⟩
  refine answer_readSource_changed h hplace hs ?_
  obtain ⟨r, hr, hrq⟩ := (mem_of_forall₂_ok (mapM_eq_ok_iff.mp hpaths)).mp (mem_distinct.mp hq)
  exact hroots r hr q hrq

end

/-- The failures to load files that are not reported: a home that is not known, or a NUL character,
be it in the path of a root or in that of the working directory. -/
inductive Unreported (reader : Reader) (roots : List Path) (w : World) : Failure → Prop where
  | homeless {before after : List Path} {r : Path} (h : roots = before ++ r :: after)
      (hbefore : ∀ b ∈ before, ∃ q, answer (normalised b) w = .ok q)
      (hr : r.expand w.place = none) : Unreported reader roots w (.ofHomeless r)
  | nul {before after : List Path} {r q : Path} (h : roots = before ++ r :: after)
      (hbefore : ∀ b ∈ before, ∃ q, answer (normalised b) w = .ok q)
      (hr : r.expand w.place = some q) (hq : q.hasNul = true) : Unreported reader roots w .nul
  | nulHere {paths before after : List Path} {q : Path}
      (hroots : List.Forall₂ (fun r q => answer (normalised r) w = .ok q) roots paths)
      (h : distinct paths = before ++ q :: after)
      (hbefore : ∀ b ∈ before, ∃ s, answer (readSource reader b) w = .ok s)
      (hq : q.hasNul = true) : Unreported reader roots w .nul

end Program
end SchemaWrappers
