import SchemaWrappers.Proofs.CommandLine.Course

/-! A call made once more: what it looks at has not changed, so it writes the same module again. -/
namespace SchemaWrappers.CommandLine
open Run

variable {reader : Program.Reader} {r : Request} {w w' : World} {args : List String}
  {P : Location → Prop}

/-- The files that drafting a module reads or tries to read: the settings, the root files that they
name, the template, and the templates that it asks for. The options file is looked for by its name. -/
inductive LooksAt (reader : Program.Reader) (r : Request) (w : World) : Path → Prop where
  | settings {p : Path} (h : answer (Settings.locate (Path.ofText r.config)) w = .ok p) :
      LooksAt reader r w p
  | root {s : Settings} {root p : Path} (hs : answer (loaded r) w = .ok s) (hroot : root ∈ s.rootFiles)
      (hp : answer (Program.normalised root) ((loaded r).run w).2 = .ok p) : LooksAt reader r w p
  | template {a : Analysis} {p q : Path} {n : String} (ha : answer (analysed reader r) w = .ok a)
      (hp : a.settings.template = some p)
      (hn : n ∈ Rendering.askedFor ((analysed reader r).run w).2 p a.vocabulary a.library a.methods)
      (hq : Rendering.pathIn? p.parent n = some q) : LooksAt reader r w q

/-- The template draws no lots while a module is drafted. -/
def DrawsNothing (reader : Program.Reader) (r : Request) (w : World) : Prop :=
  ∀ a p, answer (analysed reader r) w = .ok a → a.settings.template = some p →
    Rendering.draws ((analysed reader r).run w).2 p a.vocabulary a.library a.methods = 0

/-- Worlds that differ in files at some places, in the lots that will be drawn and in what was put out
alone, and in which no file takes records. -/
structure Alike (P : Location → Prop) (w w' : World) : Prop where
  place : w'.place = w.place
  tree : w.tree.ChangedOnly P w'.tree
  unlogged : w.sinks.bind (·.file) = none
  unlogged_after : w'.sinks.bind (·.file) = none

theorem Alike.run {α β : Type} {x : Run α} {y : Run β} (h : Alike P w w') (hx : Records x)
    (hy : Records y) : Alike P (x.run w).2 (y.run w').2 := by
  have hrecorded := hx.recorded w
  have hrecorded' := hy.recorded w'
  refine ⟨by rw [hrecorded.place, hrecorded'.place, h.place], ?_, ?_, ?_⟩
  · rw [hx.tree_eq h.unlogged, hy.tree_eq h.unlogged_after]
    exact h.tree
  · rw [hrecorded.sinks, h.unlogged]
  · rw [hrecorded'.sinks, h.unlogged_after]

theorem names_after_records {α : Type} {x : Run α} (hx : Records x)
    (h : w.sinks.bind (·.file) = none) (p : Path) (l : Location) :
    (x.run w).2.tree.Names (x.run w).2.place.here p l ↔ w.tree.Names w.place.here p l := by
  rw [hx.tree_eq h, (hx.recorded w).place]

section
variable (h : Alike P w w')
  (hP : ∀ p, LooksAt reader r w p → ∀ l, w.tree.Names w.place.here p l → ¬ P l)
include h hP

theorem answer_loaded_alike : answer (loaded r) w' = answer (loaded r) w := by
  rw [answer_loaded, answer_loaded]
  exact Settings.answer_load_changed h.tree h.place fun p hp => hP p (.settings hp)

theorem answer_analysed_alike {a : Analysis} (ha : answer (analysed reader r) w = .ok a) :
    answer (analysed reader r) w' = .ok a := by
  obtain ⟨s, hs, ha⟩ := analysed_eq_ok_iff.mp ha
  have hrecords := records_loaded r
  have hafter := h.run hrecords hrecords
  refine analysed_eq_ok_iff.mpr ⟨s, by rw [answer_loaded_alike h hP, hs], ?_⟩
  refine Analysis.answer_ofSettingsWith_changed hafter.tree hafter.place ha
    fun root hroot q hq l hl => ?_
  exact hP q (.root hs hroot hq) l ((names_after_records hrecords h.unlogged q l).mp hl)

theorem answer_rendered_alike (hdraws : DrawsNothing reader r w) {a : Analysis} {text : String}
    (ht : answer (rendered reader r) w = .ok (a, text)) :
    answer (rendered reader r) w' = .ok (a, text) := by
  obtain ⟨ha, ht⟩ := rendered_eq_ok_iff.mp ht
  have hrecords := records_analysed reader r
  have hafter := h.run hrecords hrecords
  refine rendered_eq_ok_iff.mpr ⟨answer_analysed_alike h hP ha, ?_⟩
  rw [← ht, Analysis.render]
  refine Rendering.answer_render_congr hafter.place fun p hp =>
    ⟨fun n hn => ?_, .inl (hdraws a p ha hp)⟩
  refine Rendering.textIn_changed hafter.tree hafter.place fun q hq l hl => ?_
  exact hP q (.template ha hp hn hq) l ((names_after_records hrecords h.unlogged q l).mp hl)

/-- A module is drafted as before if no file that is looked at has changed, and no lots are drawn. -/
theorem answer_draft_alike (hdraws : DrawsNothing reader r w)
    (hoptions : ∀ l, P l → l.getLast? ≠ some Output.optionsName) {p : Path} {spelled : Text.Spelled} (hd : answer (draft reader r) w = .ok (p, spelled)) :
    answer (draft reader r) w' = .ok (p, spelled) := by
  obtain ⟨a, rendering, ha, hp, ht⟩ := draft_eq_ok_iff.mp hd
  have hrecords := records_rendered reader r
  have hafter := h.run hrecords hrecords
  refine draft_eq_ok_iff.mpr ⟨a, rendering, answer_rendered_alike h hP hdraws ha, hp, ?_⟩
  rw [Output.answer_format_changed hafter.tree hafter.place hoptions, ht]

end

section
variable (hlog : r.logFile = none)
include hlog

theorem ready_eq (w : World) :
    ready r w = { w with sinks := some (.ofFlags r.verbose r.quiet false) } := by
  rw [ready, run_opening_none hlog]

theorem unlogged_ready (w : World) : (ready r w).sinks.bind (·.file) = none := by
  rw [ready_eq hlog]
  rfl

theorem unlogged_drafted (reader : Program.Reader) (w : World) :
    (drafted reader r w).sinks.bind (·.file) = none := by
  rw [(recorded_drafted reader r w).sinks, unlogged_ready hlog]

theorem tree_drafted (reader : Program.Reader) (w : World) : (drafted reader r w).tree = w.tree := by
  rw [drafted, (records_draft reader r).tree_eq (unlogged_ready hlog w), ready_eq hlog]

/-- A call that drafts a module which can be stored leaves the tree with the module in it, and prints a
line. -/
theorem perform_of_drafted {p : Path} {text : String} {tree : FileTree}
    (hd : answer (draft reader r) (ready r w) = .ok (p, .text text)) (hp : p.hasNul = false)
    (ht : w.tree.write w.place.here p (Utf8.encode text.toList) = .ok tree) :
    (perform reader r w).1 = .exit 0 ∧ (perform reader r w).2.tree = tree ∧
      (perform reader r w).2.printed = w.printed ++ writtenLine w.place.here p := by
  have hopen : answer (opening r) w = .ok () := by rw [answer, run_opening_none hlog]
  rw [← tree_drafted hlog reader w] at ht
  rw [perform_of_stored hopen hd hp ht]
  refine ⟨rfl, ?_, ?_⟩
  · exact @World.tree_record { drafted reader r w with tree } (unlogged_drafted hlog reader w) _
  · have hprinted := (World.recorded_record { drafted reader r w with tree }
      (Output.stored p (Utf8.encode text.toList))).printed
    rw [delivered, World.print, hprinted, printed_drafted]

/-- A call that writes its module has drafted one that can be stored. -/
theorem drafted_of_exit_zero (hend : (perform reader r w).1 = .exit 0) :
    ∃ p text tree, answer (draft reader r) (ready r w) = .ok (p, .text text) ∧
      p.hasNul = false ∧ w.tree.write w.place.here p (Utf8.encode text.toList) = .ok tree := by
  have hcourse := course reader r w
  generalize perform reader r w = result at hcourse hend
  cases hcourse with
  | unopened => cases hend
  | stopped => exact absurd hend (ended_ne_exit_zero _ _)
  | unstored => exact absurd hend (ended_ne_exit_zero _ _)
  | @stored p text tree h hd hp ht =>
    rw [tree_drafted hlog] at ht
    exact ⟨p, text, tree, hd, hp, ht⟩

end

/-- A call that has written its module and keeps no log can be made once more, unless the module
took the place of a file that the call looked at or of an options file, or its template draws lots. It
writes the module again as it is, so that all files stay what they are, and it prints the same line. -/
theorem rerun_changes_nothing (hargs : Request.ofArgs args = .ok r) (hlog : r.logFile = none)
    (hfirst : (callWith reader args w).1 = .exit 0)
    (hapart : ∀ l, TargetPlace r w l → l.getLast? ≠ some Output.optionsName ∧
      ∀ p, LooksAt reader r (ready r w) p → ¬ w.tree.Names w.place.here p l)
    (hdraws : DrawsNothing reader r (ready r w))
    (htree : w'.tree = (callWith reader args w).2.tree) (hplace : w'.place = w.place) :
    (callWith reader args w').1 = .exit 0 ∧ (callWith reader args w').2.tree = w'.tree ∧
      ∃ line, (callWith reader args w).2.printed = w.printed ++ line ∧
        (callWith reader args w').2.printed = w'.printed ++ line := by
  have hcall : ∀ w, callWith reader args w = perform reader r w := fun w => by rw [callWith, hargs]
  rw [hcall] at hfirst htree
  rw [hcall, hcall]
  obtain ⟨p, text, tree, hd, hp, ht⟩ := drafted_of_exit_zero hlog hfirst
  obtain ⟨-, hfinal, hprinted⟩ := perform_of_drafted hlog hd hp ht
  have halike : Alike (w.tree.Names w.place.here p) (ready r w) (ready r w') := by
    rw [hfinal] at htree
    refine ⟨?_, ?_, unlogged_ready hlog w, unlogged_ready hlog w'⟩
    · rw [ready_eq hlog, ready_eq hlog, hplace]
    · rw [ready_eq hlog, ready_eq hlog, htree]
      exact FileTree.changed_update ht
  have htarget : ∀ l, w.tree.Names w.place.here p l → TargetPlace r w l :=
    fun l hl => ⟨p, targeted_of_draft hd, hl⟩
  have hunread : ∀ q, LooksAt reader r (ready r w) q → ∀ l,
      (ready r w).tree.Names (ready r w).place.here q l →
        ¬ w.tree.Names w.place.here p l := by
    intro q hq l hl hp
    rw [ready_eq hlog] at hl
    exact (hapart l (htarget l hp)).2 q hq hl
  have hd' := answer_draft_alike halike hunread hdraws (fun l hl => (hapart l (htarget l hl)).1) hd
  have ht' : w'.tree.write w'.place.here p (Utf8.encode text.toList) = .ok w'.tree := by
    rw [hplace, htree, hfinal]
    exact FileTree.write_write ht
  obtain ⟨hend', htree', hprinted'⟩ := perform_of_drafted hlog hd' hp ht'
  rw [hplace] at hprinted'
  exact ⟨hend', htree', writtenLine w.place.here p, hprinted, hprinted'⟩

/-- A call that names a file for the module. -/
def letterArgs : List String := ["generate", "--output", "o"]

def letterRequest : Request where
  output := some "o"

/-- A world at the top of which stand the settings, one root file and a template; `names` are those of all
templates that it asks for, and `lots` tells how often it draws. -/
structure TopDesk (w : World) (names : List String) (lots : Nat) : Prop where
  located : answer (Settings.locate (Path.ofText letterRequest.config)) (ready letterRequest w) =
    .ok ⟨.top, [Settings.fileName]⟩
  normalised : answer (Program.normalised ⟨.top, ["a"]⟩) (ready letterRequest w) = .ok ⟨.top, ["a"]⟩
  analysed : (answer (analysed letterReader letterRequest) (ready letterRequest w)).map (fun a =>
    let w := ((analysed letterReader letterRequest).run (ready letterRequest w)).2
    (a.settings.rootFiles, a.settings.template,
      Rendering.askedFor w ⟨.top, ["t"]⟩ a.vocabulary a.library a.methods,
      Rendering.draws w ⟨.top, ["t"]⟩ a.vocabulary a.library a.methods)) =
    .ok ([⟨.top, ["a"]⟩], some ⟨.top, ["t"]⟩, names, lots)
  beside : ∀ n ∈ names, Rendering.pathIn? ⟨.top, []⟩ n = some ⟨.top, [n]⟩
  found : ∀ n ∈ Settings.fileName :: "a" :: names,
    (w.tree.find w.place.here ⟨.top, [n]⟩).map Prod.fst = .ok [n]
  module : w.tree.find w.place.here (Path.ofText "o") = .ok (["o"], none)
  free : "o" ∉ Settings.fileName :: "a" :: names

namespace TopDesk
variable {names : List String} {lots : Nat}

theorem of_analysed (h : TopDesk w names lots) {a : Analysis}
    (ha : answer (CommandLine.analysed letterReader letterRequest) (ready letterRequest w) = .ok a) :
    let w := ((CommandLine.analysed letterReader letterRequest).run (ready letterRequest w)).2
    a.settings.rootFiles = [⟨.top, ["a"]⟩] ∧ a.settings.template = some ⟨.top, ["t"]⟩ ∧
      Rendering.askedFor w ⟨.top, ["t"]⟩ a.vocabulary a.library a.methods = names ∧
      Rendering.draws w ⟨.top, ["t"]⟩ a.vocabulary a.library a.methods = lots := by
  have hanalysed := h.analysed
  rw [ha] at hanalysed
  simpa only [Except.map, Except.ok.injEq, Prod.mk.injEq] using hanalysed

theorem draws_nothing (h : TopDesk w names 0) :
    DrawsNothing letterReader letterRequest (ready letterRequest w) := by
  intro a p ha hp
  obtain ⟨-, htemplate, -, hnone⟩ := h.of_analysed ha
  cases hp.symm.trans htemplate
  exact hnone

theorem mem_of_looksAt (h : TopDesk w names lots) {p : Path}
    (hp : LooksAt letterReader letterRequest (ready letterRequest w) p) :
    p ∈ (Settings.fileName :: "a" :: names).map fun n => ⟨.top, [n]⟩ := by
  cases hp with
  | settings hp =>
    rw [h.located] at hp
    cases hp
    exact List.mem_cons_self ..
  | @root s root _ hs hroot hp =>
    obtain ⟨a, ha, -⟩ := map_eq_ok_iff.mp h.analysed
    obtain ⟨s', hs', hsettings⟩ := analysed_eq_ok_iff.mp ha
    obtain rfl := Except.ok.inj (hs.symm.trans hs')
    rw [← Analysis.settings_of_ofSettingsWith hsettings, (h.of_analysed ha).1,
      List.mem_singleton] at hroot
    subst hroot
    have hplace : ((loaded letterRequest).run (ready letterRequest w)).2.place =
        (ready letterRequest w).place := ((records_loaded letterRequest).recorded _).place
    rw [Program.answer_normalised_congr hplace, h.normalised] at hp
    cases hp
    exact List.mem_cons_of_mem _ (List.mem_cons_self ..)
  | @template a path q n ha hpath hn hq =>
    obtain ⟨-, htemplate, hnames, -⟩ := h.of_analysed ha
    cases hpath.symm.trans htemplate
    rw [hnames] at hn
    cases hq.symm.trans (h.beside n hn)
    exact List.mem_map_of_mem (List.mem_cons_of_mem _ (List.mem_cons_of_mem _ hn))

/-- The module takes the place of no file that is looked at. -/
theorem apart (h : TopDesk w names lots) (l : Location) (hl : TargetPlace letterRequest w l) :
    l.getLast? ≠ some Output.optionsName ∧ ∀ p,
      LooksAt letterReader letterRequest (ready letterRequest w) p →
        ¬ w.tree.Names w.place.here p l := by
  obtain ⟨p, hp | hp, hl⟩ := hl
  · cases hp
    rw [hl.unique ⟨none, h.module⟩]
    refine ⟨by decide, fun q hq hnames => ?_⟩
    obtain ⟨n, hn, rfl⟩ := List.mem_map.mp (h.mem_of_looksAt hq)
    obtain ⟨e, he⟩ := hnames
    have hplace := h.found n hn
    rw [he] at hplace
    cases hplace
    exact h.free hn
  · cases hp

end TopDesk

theorem topDesk_letterDesk : TopDesk letterDesk ["t", "i"] 0 where
  located := by decide +kernel
  normalised := by decide +kernel
  analysed := by decide +kernel
  beside := by decide
  found := by decide +kernel
  module := by decide +kernel
  free := by decide

theorem letter_rerun :
    let again : World := { letterDesk with
      tree := (callWith letterReader letterArgs letterDesk).2.tree
      chance := fun _ => 1 }
    (callWith letterReader letterArgs letterDesk).1 = .exit 0 ∧
      (callWith letterReader letterArgs again).1 = .exit 0 ∧
      (callWith letterReader letterArgs again).2.tree = again.tree := by
  intro again
  have hargs : Request.ofArgs letterArgs = .ok letterRequest := by decide +kernel
  have hfirst : (callWith letterReader letterArgs letterDesk).1 = .exit 0 := by decide +kernel
  have htree : ∀ (t : FileTree) (c : Nat → Nat),
      World.tree { letterDesk with tree := t, chance := c } = t := fun _ _ => rfl
  have hrerun := @rerun_changes_nothing _ _ _ again _ hargs rfl hfirst topDesk_letterDesk.apart
    topDesk_letterDesk.draws_nothing (htree _ _) rfl
  exact ⟨hfirst, hrerun.1, hrerun.2.1⟩

def lotDesk (lot : Nat) : World where
  place := letterDesk.place
  tree := ⟨[([Settings.fileName], .file (Utf8.encode
      "library_dir: .\nroot_files: [a]\nbuilders: [A]\noutput: o\ntemplate: t\n".toList)),
    (["a"], .file (Utf8.encode "class A\x7bm():T\x7d".toList)),
    (["t"], .file (Utf8.encode "«(range(1000000000)|random) == 7»".toList))]⟩
  chance := fun _ => lot

theorem topDesk_lotDesk : TopDesk (lotDesk 7) ["t"] 1 where
  located := by decide +kernel
  normalised := by decide +kernel
  analysed := by decide +kernel
  beside := by decide
  found := by decide +kernel
  module := by decide +kernel
  free := by decide

/-- Another lot makes another module, though the call looks at no file that has changed. -/
theorem lots_change_module :
    let again : World := { lotDesk 0 with tree := (callWith letterReader letterArgs (lotDesk 7)).2.tree }
    Request.ofArgs letterArgs = .ok letterRequest ∧ letterRequest.logFile = none ∧
      (callWith letterReader letterArgs (lotDesk 7)).1 = .exit 0 ∧
      (∀ l, TargetPlace letterRequest (lotDesk 7) l → l.getLast? ≠ some Output.optionsName ∧
        ∀ p, LooksAt letterReader letterRequest (ready letterRequest (lotDesk 7)) p →
          ¬ (lotDesk 7).tree.Names (lotDesk 7).place.here p l) ∧
      again.place = (lotDesk 7).place ∧ (callWith letterReader letterArgs again).1 = .exit 0 ∧
      (callWith letterReader letterArgs again).2.tree ≠ again.tree := by
  intro again
  have hargs : Request.ofArgs letterArgs = .ok letterRequest := by decide +kernel
  have hends : (callWith letterReader letterArgs (lotDesk 7)).1 = .exit 0 ∧
      (callWith letterReader letterArgs again).1 = .exit 0 ∧
      again.tree.look again.place.here (Path.ofText "o") =
        .ok (some (.file (Utf8.encode "True\n".toList))) ∧
      (callWith letterReader letterArgs again).2.tree.look again.place.here (Path.ofText "o") =
        .ok (some (.file (Utf8.encode "False\n".toList))) := by decide +kernel
  obtain ⟨hfirst, hagain, hmodule, hother⟩ := hends
  refine ⟨hargs, rfl, hfirst, topDesk_lotDesk.apart, rfl, hagain, fun htree => ?_⟩
  rw [htree, hmodule] at hother
  exact absurd hother (by decide)

end SchemaWrappers.CommandLine
