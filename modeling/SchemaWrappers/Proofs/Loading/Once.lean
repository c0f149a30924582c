import SchemaWrappers.Proofs.FileTree.Standing
import SchemaWrappers.Proofs.Loading
import SchemaWrappers.Proofs.Surface.Exactness

/-! However the paths of files are spelt: each file is loaded once, and found by every spelling of its
path. -/
namespace SchemaWrappers

/-- The working directory is where it is said to be, and home directories can be looked up. -/
structure Place.IsProper (p : Place) : Prop where
  here : ∀ n ∈ p.here.names, IsStep n ∧ IsName n
  home : ∀ u home, p.homeOf? u = some home → ∀ n ∈ home.names, IsStep n ∧ '\x00' ∉ n.toList

/-- It is enough that the homes are proper that are told of. -/
theorem Place.isProper_of_homes {p : Place} (here : ∀ n ∈ p.here.names, IsStep n ∧ IsName n)
    (home : ∀ q ∈ p.home :: p.users.map (·.2), ∀ n ∈ q.names, IsStep n ∧ '\x00' ∉ n.toList) :
    p.IsProper := by
  refine ⟨here, fun u q hq => home q ?_⟩
  rw [homeOf?] at hq
  split at hq
  · exact List.mem_cons.mpr (.inl (Option.some.inj hq).symm)
  · obtain ⟨l₁, l₂, hl, -⟩ := List.lookup_eq_some_iff.mp hq
    exact List.mem_cons_of_mem _ (List.mem_map.mpr ⟨_, hl ▸ List.mem_append_right _ (List.mem_cons_self ..), rfl⟩)

/-- A text that spells a path: no NUL character is in it, and it asks for no home but those that are
known. -/
structure IsSpelling (p : Place) (q : String) : Prop where
  nul : '\x00' ∉ q.toList
  home : ∀ n rest, (Path.ofText q).StartsAtHome n rest → ∃ home, p.homeOf? n = some home

namespace Program
open Run
variable {reader : Reader} {roots : List String} {w w' : World} {p : Program} {q : String} {n m : Path}

/-- The path by which the file is known whose path a text spells. -/
def KnownBy (w : World) (q : String) (n : Path) : Prop := answer (normalised (Path.ofText q)) w = .ok n

theorem knownBy_iff : KnownBy w q n ↔ ∃ e, (Path.ofText q).expand w.place = some e ∧
    e.hasNul = false ∧ e.resolve w.place.here = n := by
  rw [KnownBy, answer_normalised, answer_expand]
  cases (Path.ofText q).expand w.place with
  | none => simp [Except.bind]
  | some e =>
    dsimp only [Option.elim, Except.bind]
    rw [answer_resolve]
    cases hnul : e.hasNul with
    | true => simp [hnul]
    | false => simp [hnul]

theorem knownBy_congr (hplace : w'.place = w.place) : KnownBy w' q n ↔ KnownBy w q n := by
  rw [knownBy_iff, knownBy_iff, hplace]

theorem KnownBy.isNormal (hw : w.place.IsProper) (h : KnownBy w q n) : n.IsNormal := by
  obtain ⟨e, he, hnul, rfl⟩ := knownBy_iff.mp h
  refine Path.isNormal_resolve hw.here (fun m hm => ?_) hnul
  rcases Path.mem_of_expand he hm with hm | hm
  · obtain ⟨u, home, hu, hm⟩ := hm
    exact (hw.home u home hu m hm).1
  · exact Path.isStep_of_mem_ofText hm

theorem knownBy_text (hn : n.IsNormal) : KnownBy w n.text n := by
  rw [knownBy_iff, hn.ofText_text]
  exact ⟨n, hn.expand _, hn.hasNul, hn.resolve _⟩

/-- Whatever spells a path, spells the path of some file. -/
theorem exists_knownBy (hw : w.place.IsProper) (hq : IsSpelling w.place q) : ∃ n, KnownBy w q n := by
  obtain ⟨e, he⟩ := Path.exists_expand w.place hq.home
  refine ⟨_, knownBy_iff.mpr ⟨e, he, ?_, rfl⟩⟩
  rw [Path.hasNul, List.any_eq_false]
  intro m hm
  rcases Path.mem_of_expand he hm with hm | hm
  · obtain ⟨u, home, hu, hm⟩ := hm
    simpa using (hw.home u home hu m hm).2
  · simpa using fun hc => hq.nul (Path.mem_of_mem_ofText hm hc)

theorem answer_lookUp (p : Program) (q : Path) (w : World) :
    answer (lookUp p q) w = (answer (normalised q) w).map fun n => p.source? n.text := by
  rw [lookUp, (reads_normalised q).answer_bind]
  cases answer (normalised q) w with
  | error e => rfl
  | ok n => rfl

theorem KnownBy.answer_lookUp (h : KnownBy w q n) (p : Program) :
    answer (lookUp p (Path.ofText q)) w = .ok (p.source? n.text) := by
  rw [Program.answer_lookUp, h]
  rfl

theorem KnownBy.lookUp_eq_some_iff (h : KnownBy w q n) (hp : (p.sources.map (·.path)).Nodup)
    {s : Source} : answer (lookUp p (Path.ofText q)) w = .ok (some s) ↔
      s ∈ p.sources ∧ s.path = n.text := by
  rw [h.answer_lookUp, Except.ok.injEq, source?_eq_some_iff hp]

theorem KnownBy.lookUp_eq_none_iff (h : KnownBy w q n) :
    answer (lookUp p (Path.ofText q)) w = .ok none ↔ n.text ∉ p.sources.map (·.path) := by
  rw [h.answer_lookUp, Except.ok.injEq, source?_eq_none_iff]

/-- Where it is known by which paths the roots are, the files of these are read, once each. -/
theorem answer_loadWith_of_knownBy {ns : List Path} (h : List.Forall₂ (KnownBy w) roots ns) :
    answer (loadWith reader (roots.map Path.ofText)) w =
      ((distinct ns).mapM fun q => answer (readSource reader q) w).bind fun sources =>
        .ok ⟨sources, (distinct ns).map (·.text)⟩ := by
  have hns : (roots.map Path.ofText).mapM (fun r => answer (normalised r) w) = .ok ns :=
    mapM_eq_ok_iff.mpr (List.forall₂_map_left_iff.mpr h)
  rw [answer_loadWith, hns]
  rfl

theorem map_path_of_read {ns : List Path} {sources : List Source}
    (h : List.Forall₂ (fun n s => answer (readSource reader n) w = .ok s) ns sources) :
    sources.map (·.path) = ns.map Path.text := by
  induction h with
  | nil => rfl
  | cons hs _ ih => rw [List.map_cons, List.map_cons, readSource_path hs, ih]

/-- The files that are known by normal paths are where these lead. -/
theorem names_of_read {ns : List Path} {sources : List Source} (hns : ∀ n ∈ ns, n.IsNormal)
    (h : List.Forall₂ (fun n s => answer (readSource reader n) w = .ok s) ns sources) :
    List.Forall₂ (fun s l => w.tree.Names w.place.here (Path.ofText s.path) l) sources
      (ns.map Path.names) := by
  induction h with
  | nil => exact .nil
  | cons hs _ ih =>
    obtain ⟨hn, hns⟩ := List.forall_mem_cons.mp hns
    refine .cons ?_ (ih hns)
    obtain ⟨-, text, hread, -⟩ := readSource_eq_ok hs
    obtain ⟨l, hl⟩ := FileTree.names_of_readText hread
    rwa [readSource_path hs, hn.ofText_text, ← FileTree.eq_of_names_normal hn hl]

/-- To name once more what has been named adds nothing. -/
theorem answer_loadWith_again {before after : List String} {b r : String} {n : Path}
    (hp : answer (loadWith reader ((before ++ after).map Path.ofText)) w = .ok p)
    (hb : b ∈ before) (hbn : KnownBy w b n) (hrn : KnownBy w r n) :
    answer (loadWith reader ((before ++ r :: after).map Path.ofText)) w = .ok p := by
  obtain ⟨ns, hroots, -, -⟩ := load_eq_ok hp
  rw [List.forall₂_map_left_iff] at hroots
  obtain ⟨front, back, rfl, hfront, hback⟩ := forall₂_append_left hroots
  have hn : n ∈ front := (mem_of_forall₂_ok hfront).mpr ⟨b, hb, hbn⟩
  have hmore : List.Forall₂ (KnownBy w) (before ++ r :: after) (front ++ n :: back) :=
    List.rel_append hfront (.cons hrn hback)
  rw [answer_loadWith_of_knownBy hmore, distinct_append_cons_of_mem hn, ← answer_loadWith_of_knownBy hroots]
  exact hp

/-- A program that was loaded from files whose paths `roots` spells. -/
structure LoadedOnce (reader : Reader) (w : World) (roots : List String) (p : Program) : Prop where
  /-- Its paths are those that the roots are known by, in the order in which they come first. -/
  paths : ∃ ns, List.Forall₂ (KnownBy w) roots ns ∧
    p.sources.map (·.path) = (ns.map Path.text).eraseDups
  nodup : (p.sources.map (·.path)).Nodup
  /-- They lead to as many places. -/
  places : ∃ ls, List.Forall₂ (fun s l => w.tree.Names w.place.here (Path.ofText s.path) l) p.sources ls ∧
    ls.Nodup
  allRoots : p.rootSources = p.sources
  /-- A path, however it is spelt, finds the source of its file, and nothing if no root spells it. -/
  found : ∀ q, IsSpelling w.place q → ∃ n, KnownBy w q n ∧ ∀ w', w'.place = w.place →
    (∀ s, answer (lookUp p (Path.ofText q)) w' = .ok (some s) ↔ s ∈ p.sources ∧ s.path = n.text) ∧
    (answer (lookUp p (Path.ofText q)) w' = .ok none ↔ ∀ r ∈ roots, ¬ KnownBy w r n)
  /-- The path of a source finds it from anywhere. -/
  own : ∀ s ∈ p.sources, ∀ w', answer (lookUp p (Path.ofText s.path)) w' = .ok (some s)
  /-- A file gives its overloads once, however often it is named. -/
  overloads : ∀ builders, Surface.overloads (Surface.builders p builders) =
    p.sources.flatMap fun s => s.tree.namedChildren.flatMap (Surface.contributed builders s)
  /-- To name a file once more adds nothing. -/
  again : ∀ before after, roots = before ++ after → ∀ b ∈ before, ∀ r n, KnownBy w b n → KnownBy w r n →
    answer (loadWith reader ((before ++ r :: after).map Path.ofText)) w = .ok p

/-- Each file that is named is loaded once and found once: where the files load whose paths some texts
spell, the paths of the sources are the normal forms of these spellings, each once and where it first
comes; all sources are root sources; and every spelling finds the source that has its normal form, if
there is one. -/
theorem loadedOnce_of_load (hw : w.place.IsProper)
    (h : answer (loadWith reader (roots.map Path.ofText)) w = .ok p) :
    LoadedOnce reader w roots p := by
  obtain ⟨ns, hroots, hread, -⟩ := load_eq_ok h
  rw [List.forall₂_map_left_iff] at hroots
  have hnormal : ∀ n ∈ ns, n.IsNormal := by
    intro n hn
    obtain ⟨r, -, hr⟩ := (mem_of_forall₂_ok hroots).mp hn
    exact KnownBy.isNormal hw hr
  have hkept : ∀ n ∈ distinct ns, n.IsNormal := fun n hn => hnormal n (mem_distinct.mp hn)
  have hpaths : p.sources.map (·.path) = (distinct ns).map Path.text := map_path_of_read hread
  have hfirsts : p.sources.map (·.path) = (ns.map Path.text).eraseDups := hpaths.trans
    (map_distinct fun n hn m hm => (hnormal n hn).eq_of_text_eq (hnormal m hm))
  have hnodup : (p.sources.map (·.path)).Nodup := by
    rw [hfirsts, ← distinct_eq_eraseDups]
    exact distinct_nodup _
  have hall : p.rootSources = p.sources := rootSources_of_load h
  constructor
  case paths => exact ⟨ns, hroots, hfirsts⟩
  case nodup => exact hnodup
  case places =>
    refine ⟨_, names_of_read hkept hread, (distinct_nodup ns).map_on fun n hn m hm => ?_⟩
    exact (hkept n hn).eq_of_names_eq (hkept m hm)
  case allRoots => exact hall
  case found =>
    intro q hq
    obtain ⟨n, hn⟩ := exists_knownBy hw hq
    refine ⟨n, hn, fun w' hplace => ?_⟩
    have hn' : KnownBy w' q n := (knownBy_congr hplace).mpr hn
    refine ⟨fun s => hn'.lookUp_eq_some_iff hnodup, hn'.lookUp_eq_none_iff.trans ?_⟩
    rw [hpaths, Path.IsNormal.text_mem_map hkept (hn.isNormal hw), mem_distinct,
      mem_of_forall₂_ok hroots]
    simp [KnownBy]
  case own =>
    intro s hs w'
    obtain ⟨n, hn, hpath⟩ := List.mem_map.mp (hpaths ▸ List.mem_map_of_mem hs)
    have hown : KnownBy w' s.path n := hpath ▸ knownBy_text (hkept n hn)
    exact (hown.lookUp_eq_some_iff hnodup).mpr ⟨hs, hpath.symm⟩
  case overloads =>
    intro builders
    rw [Surface.overloads_builders, hall]
  case again =>
    rintro before after rfl b hb r n hbn hrn
    exact answer_loadWith_again h hb hbn hrn

/-- A world with a file in the working directory and one in the home directory, which is that of a
user. -/
def spelledDesk : World where
  place := { here := ⟨.top, ["p", "w"]⟩, home := ⟨.top, ["h"]⟩, users := [("u", ⟨.top, ["h"]⟩)] }
  tree := ⟨[(["p"], .directory), (["p", "w"], .directory), (["h"], .directory),
    (["p", "w", "a.d.ts"], .file (Utf8.encode ['a'])), (["h", "b.d.ts"], .file (Utf8.encode ['b']))]⟩

def twoSpelled : List String :=
  ["a.d.ts", "./x/../a.d.ts", "~/b.d.ts", "//h//b.d.ts", "~u/b.d.ts", "/p/./w/a.d.ts", "~/../h/b.d.ts"]

theorem two_spelled_files_loaded_once :
    let reader : Reader := fun _ => ⟨⟨"program", 0, 1, 0, true, false, none, []⟩, false⟩
    spelledDesk.place.IsProper ∧
      ∃ p, answer (loadWith reader (twoSpelled.map Path.ofText)) spelledDesk = .ok p ∧
        p.sources.map (·.path) = ["/p/w/a.d.ts", "/h/b.d.ts"] ∧
        LoadedOnce reader spelledDesk twoSpelled p := by
  intro reader
  have hproper : spelledDesk.place.IsProper := Place.isProper_of_homes (by decide +kernel) (by decide +kernel)
  have hpaths : (answer (loadWith reader (twoSpelled.map Path.ofText)) spelledDesk).map
      (fun p => p.sources.map (·.path)) = .ok ["/p/w/a.d.ts", "/h/b.d.ts"] := by decide +kernel
  obtain ⟨p, hp, hsources⟩ := map_eq_ok_iff.mp hpaths
  exact ⟨hproper, p, hp, hsources, loadedOnce_of_load hproper hp⟩

end Program
end SchemaWrappers
