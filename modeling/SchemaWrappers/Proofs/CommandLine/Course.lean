import SchemaWrappers.CommandLine.Perform
import SchemaWrappers.Proofs.Analysis.OrderIndependence
import SchemaWrappers.Proofs.Output
import SchemaWrappers.Proofs.Settings.Loading

/-! The course of a call: records are set up, the module is drafted, and at the very end it is
stored. -/
namespace SchemaWrappers.CommandLine
open Run

variable {reader : Program.Reader} {r : Request} {w : World} {p : Path} {text : String}
  {spelled : Text.Spelled} {e : Failure}

/-- Where the module goes: to the path that is asked for, else to the one in the settings. -/
def target (r : Request) (s : Settings) : Path := (r.output.map Path.ofText).getD s.output

def loaded (r : Request) : Run Settings := do
  let settings ← Settings.load (Path.ofText r.config)
  report (Log.info channel "Initializing the program generator...")
  return settings

def analysed (reader : Program.Reader) (r : Request) : Run Analysis := do
  let a ← Analysis.ofSettingsWith reader (← loaded r)
  report (Log.debug channel s!"{a.builders.length} builder classes found.")
  report (Log.debug channel s!"{a.methods.length} methods found.")
  report (Log.info channel "Creating builder file...")
  return a

def rendered (reader : Program.Reader) (r : Request) : Run (Analysis × String) := do
  let a ← analysed reader r
  return (a, ← a.render)

/-- Where the module goes, and its text as it is laid out. -/
def draft (reader : Program.Reader) (r : Request) : Run (Path × Text.Spelled) := do
  let (a, text) ← rendered reader r
  return (target r a.settings, ← Output.format none text (target r a.settings))

/-- All is done before the module is stored. -/
theorem generate_eq (reader : Program.Reader) (r : Request) :
    generate reader r = draft reader r >>= fun d => Output.store d.1 d.2 := by
  simp only [generate, draft, rendered, analysed, loaded, Analysis.write, Output.write, target,
    bind_assoc, pure_bind]

def LogPlace (r : Request) (w : World) (l : Location) : Prop :=
  ∃ f, r.logFile = some f ∧ w.tree.Names w.place.here (w.absolute (Path.ofText f)) l

/-- Without a log file the console alone is set up. -/
theorem run_opening_none (h : r.logFile = none) (w : World) : (opening r).run w =
    (.ok (), { w with sinks := some (.ofFlags r.verbose r.quiet false) }) := by
  rw [opening, h]
  rfl

theorem run_opening_some {f : String} (h : r.logFile = some f) (w : World) : (opening r).run w =
    if (Path.ofText f).hasNul then
      (.error .nul, { w with sinks := some (.ofFlags r.verbose r.quiet true) })
    else match w.tree.append w.place.here (w.absolute (Path.ofText f)) [] with
      | .error e => (.error (.access e), { w with sinks := some (.ofFlags r.verbose r.quiet true) })
      | .ok tree => (.ok (), { w with
          tree, sinks := some { Log.Sinks.ofFlags r.verbose r.quiet true with
            file := some (w.absolute (Path.ofText f)) } }) := by
  rw [opening, h, Option.map_some]
  exact run_configureLog_some r.verbose r.quiet (Path.ofText f) w

def ready (r : Request) (w : World) : World := ((opening r).run w).2

/-- What setting up leaves as it was: all but the log file. -/
structure Opened (r : Request) (w w' : World) : Prop where
  place : w'.place = w.place
  printed : w'.printed = w.printed
  tree : w.tree.ChangedOnly (LogPlace r w) w'.tree
  logPlace : ∀ l, w'.LogPlace l → LogPlace r w l

theorem opened_ready (r : Request) (w : World) : Opened r w (ready r w) := by
  have hunlogged : ∀ sinks : Log.Sinks, sinks.file = none →
      Opened r w { w with sinks := some sinks } := by
    rintro sinks hfile
    refine ⟨rfl, rfl, .refl _ _, ?_⟩
    rintro l ⟨p, hp, -⟩
    rw [Option.bind_some, hfile] at hp
    cases hp
  cases hlog : r.logFile with
  | none =>
    rw [ready, run_opening_none hlog]
    exact hunlogged _ rfl
  | some f =>
    rw [ready, run_opening_some hlog]
    split
    · exact hunlogged _ rfl
    · split
      · exact hunlogged _ rfl
      · rename_i tree happend
        have htree : w.tree.ChangedOnly (LogPlace r w) tree :=
          (FileTree.changed_update happend).mono fun l hl => ⟨f, hlog, hl⟩
        refine ⟨rfl, rfl, htree, ?_⟩
        rintro l ⟨p, hp, hl⟩
        cases hp
        exact ⟨f, hlog, (FileTree.names_changed htree).mp hl⟩

theorem records_loaded (r : Request) : Records (loaded r) :=
  (Settings.reads_load _).records.bind fun _ => (Records.report _).bind fun _ => .pure _

theorem records_analysed (reader : Program.Reader) (r : Request) : Records (analysed reader r) :=
  (records_loaded r).bind fun s => (Analysis.records_ofSettingsWith reader s).bind fun _ =>
    (Records.report _).bind fun _ => (Records.report _).bind fun _ =>
      (Records.report _).bind fun _ => .pure _

theorem records_rendered (reader : Program.Reader) (r : Request) : Records (rendered reader r) :=
  (records_analysed reader r).bind fun _ => (Rendering.records_render _ _ _ _).bind fun _ => .pure _

theorem records_draft (reader : Program.Reader) (r : Request) : Records (draft reader r) :=
  (records_rendered reader r).bind fun _ => (Output.records_format _ _).bind fun _ => .pure _

/-- The world once the module is drafted, or that has failed. -/
def drafted (reader : Program.Reader) (r : Request) (w : World) : World :=
  ((draft reader r).run (ready r w)).2

theorem recorded_drafted (reader : Program.Reader) (r : Request) (w : World) :
    (ready r w).Recorded (drafted reader r w) :=
  (records_draft reader r).recorded (ready r w)

theorem place_drafted (reader : Program.Reader) (r : Request) (w : World) :
    (drafted reader r w).place = w.place :=
  (recorded_drafted reader r w).place.trans (opened_ready r w).place

theorem printed_drafted (reader : Program.Reader) (r : Request) (w : World) :
    (drafted reader r w).printed = w.printed :=
  (recorded_drafted reader r w).printed.trans (opened_ready r w).printed

theorem changed_drafted (reader : Program.Reader) (r : Request) (w : World) :
    w.tree.ChangedOnly (LogPlace r w) (drafted reader r w).tree :=
  (opened_ready r w).tree.trans ((recorded_drafted reader r w).tree.mono (opened_ready r w).logPlace)

/-- The records that are made between the stages of a draft have no part in what it answers. -/
theorem answer_loaded (r : Request) (w : World) :
    answer (loaded r) w = answer (Settings.load (Path.ofText r.config)) w := by
  rw [loaded, answer_bind]
  cases answer (Settings.load (Path.ofText r.config)) w with
  | error e => rfl
  | ok s => rfl

theorem answer_analysed (reader : Program.Reader) (r : Request) (w : World) :
    answer (analysed reader r) w = (answer (loaded r) w).bind fun s =>
      answer (Analysis.ofSettingsWith reader s) ((loaded r).run w).2 := by
  rw [analysed, answer_bind]
  refine congrArg _ (funext fun s => ?_)
  rw [answer_bind]
  cases answer (Analysis.ofSettingsWith reader s) ((loaded r).run w).2 with
  | error e => rfl
  | ok a => rfl

theorem answer_rendered (reader : Program.Reader) (r : Request) (w : World) :
    answer (rendered reader r) w = (answer (analysed reader r) w).bind fun a =>
      (answer a.render ((analysed reader r).run w).2).map (a, ·) := by
  rw [rendered, answer_bind]
  refine congrArg _ (funext fun a => ?_)
  rw [answer_bind]
  cases answer a.render ((analysed reader r).run w).2 with
  | error e => rfl
  | ok text => rfl

theorem answer_draft (reader : Program.Reader) (r : Request) (w : World) :
    answer (draft reader r) w = (answer (rendered reader r) w).bind fun d =>
      (answer (Output.format none d.2 (target r d.1.settings)) ((rendered reader r).run w).2).map
        (target r d.1.settings, ·) := by
  rw [draft, answer_bind]
  refine congrArg _ (funext fun d => ?_)
  obtain ⟨a, text⟩ := d
  dsimp only
  rw [answer_bind]
  cases answer (Output.format none text (target r a.settings)) ((rendered reader r).run w).2 with
  | error e => rfl
  | ok laidOut => rfl

theorem analysed_eq_ok_iff {a : Analysis} : answer (analysed reader r) w = .ok a ↔
    ∃ s, answer (loaded r) w = .ok s ∧
      answer (Analysis.ofSettingsWith reader s) ((loaded r).run w).2 = .ok a := by
  rw [answer_analysed, bind_eq_ok_iff]

theorem rendered_eq_ok_iff {a : Analysis} :
    answer (rendered reader r) w = .ok (a, text) ↔ answer (analysed reader r) w = .ok a ∧
      answer a.render ((analysed reader r).run w).2 = .ok text := by
  simp [answer_rendered, bind_eq_ok_iff, map_eq_ok_iff]

theorem draft_eq_ok_iff :
    answer (draft reader r) w = .ok (p, spelled) ↔ ∃ a rendering,
      answer (rendered reader r) w = .ok (a, rendering) ∧ p = target r a.settings ∧
        answer (Output.format none rendering p) ((rendered reader r).run w).2 = .ok spelled := by
  rw [answer_draft, bind_eq_ok_iff]
  constructor
  · rintro ⟨⟨a, rendering⟩, ha, h⟩
    obtain ⟨laidOut, ht, h⟩ := map_eq_ok_iff.mp h
    cases h
    exact ⟨a, rendering, ha, rfl, ht⟩
  · rintro ⟨a, rendering, ha, rfl, ht⟩
    exact ⟨(a, rendering), ha, map_eq_ok_iff.mpr ⟨spelled, ht, rfl⟩⟩

/-- The module goes where the settings that were loaded say, if nothing else is asked for. -/
theorem target_of_draft (h : answer (draft reader r) w = .ok (p, spelled)) :
    ∃ s, answer (Settings.load (Path.ofText r.config)) w = .ok s ∧ p = target r s := by
  obtain ⟨a, rendering, ha, rfl, -⟩ := draft_eq_ok_iff.mp h
  obtain ⟨s, hs, ha⟩ := analysed_eq_ok_iff.mp (rendered_eq_ok_iff.mp ha).1
  rw [answer_loaded] at hs
  exact ⟨s, hs, by rw [Analysis.settings_of_ofSettingsWith ha]⟩

/-- The paths that the module is to be written to: the one that is asked for, else the one in the
settings. -/
inductive Targeted (r : Request) (w : World) : Path → Prop where
  | asked {f : String} (h : r.output = some f) : Targeted r w (Path.ofText f)
  | configured {s : Settings} (h : r.output = none)
      (hs : answer (Settings.load (Path.ofText r.config)) (ready r w) = .ok s) :
      Targeted r w s.output

/-- The places that such paths lead to. -/
def TargetPlace (r : Request) (w : World) (l : Location) : Prop :=
  ∃ p, Targeted r w p ∧ w.tree.Names w.place.here p l

theorem targeted_of_draft
    (h : answer (draft reader r) (ready r w) = .ok (p, spelled)) : Targeted r w p := by
  obtain ⟨s, hs, rfl⟩ := target_of_draft h
  rw [target]
  cases hr : r.output with
  | none => exact .configured hr hs
  | some f => exact .asked hr

theorem ended_ne_exit_zero (e : Failure) (w : World) : (ended e w).1 ≠ .exit 0 := by
  rw [ended]
  split
  · nofun
  · nofun

def delivered (reader : Program.Reader) (r : Request) (w : World) (tree : FileTree) (p : Path)
    (text : String) : World :=
  ({ drafted reader r w with tree }.record (Output.stored p (Utf8.encode text.toList))).print
    (writtenLine w.place.here p)

/-- The courses that carrying a request out can take: nothing can be recorded, no module comes about,
it cannot be stored, or it is stored and that is recorded and printed. -/
inductive Course (reader : Program.Reader) (r : Request) (w : World) : Ending × World → Prop where
  | unopened {e : Failure} (h : answer (opening r) w = .error e) :
      Course reader r w (.broken e, ready r w)
  | stopped {e : Failure} (h : answer (opening r) w = .ok ())
      (hd : answer (draft reader r) (ready r w) = .error e) :
      Course reader r w (ended e (drafted reader r w))
  | unstored {e : Failure} {p : Path} {spelled : Text.Spelled} (h : answer (opening r) w = .ok ())
      (hd : answer (draft reader r) (ready r w) = .ok (p, spelled))
      (hs : (Output.store p spelled).run (drafted reader r w) = (.error e, drafted reader r w)) :
      Course reader r w (ended e (drafted reader r w))
  | stored {p : Path} {text : String} {tree : FileTree} (h : answer (opening r) w = .ok ())
      (hd : answer (draft reader r) (ready r w) = .ok (p, .text text)) (hp : p.hasNul = false)
      (ht : (drafted reader r w).tree.write w.place.here p (Utf8.encode text.toList) = .ok tree) :
      Course reader r w (.exit 0, delivered reader r w tree p text)

theorem generate_of_drafted (hd : answer (draft reader r) (ready r w) = .ok (p, spelled)) :
    (generate reader r).run (ready r w) = (Output.store p spelled).run (drafted reader r w) := by
  have hdraft : (draft reader r).run (ready r w) = (.ok (p, spelled), drafted reader r w) :=
    Prod.ext hd rfl
  rw [generate_eq, run_bind, hdraft]

theorem generate_of_stopped (hd : answer (draft reader r) (ready r w) = .error e) :
    (generate reader r).run (ready r w) = (.error e, drafted reader r w) := by
  have hdraft : (draft reader r).run (ready r w) = (.error e, drafted reader r w) := Prod.ext hd rfl
  rw [generate_eq, run_bind, hdraft]

theorem perform_of_unopened (h : answer (opening r) w = .error e) :
    perform reader r w = (.broken e, ready r w) := by
  have hopen : (opening r).run w = (.error e, ready r w) := Prod.ext h rfl
  rw [perform, hopen]

section
variable (h : answer (opening r) w = .ok ())
include h

theorem perform_of_failed {w' : World} (hg : (generate reader r).run (ready r w) = (.error e, w')) :
    perform reader r w = ended e w' := by
  have hopen : (opening r).run w = (.ok (), ready r w) := Prod.ext h rfl
  rw [perform, hopen]
  dsimp only
  rw [hg]

theorem perform_of_generated {w' : World} (hg : (generate reader r).run (ready r w) = (.ok p, w')) :
    perform reader r w = (.exit 0, w'.print (writtenLine w'.place.here p)) := by
  have hopen : (opening r).run w = (.ok (), ready r w) := Prod.ext h rfl
  rw [perform, hopen]
  dsimp only
  rw [hg]

theorem perform_of_stopped (hd : answer (draft reader r) (ready r w) = .error e) :
    perform reader r w = ended e (drafted reader r w) :=
  perform_of_failed h (generate_of_stopped hd)

theorem perform_of_unstored (hd : answer (draft reader r) (ready r w) = .ok (p, spelled))
    (hs : (Output.store p spelled).run (drafted reader r w) = (.error e, drafted reader r w)) :
    perform reader r w = ended e (drafted reader r w) :=
  perform_of_failed h ((generate_of_drafted hd).trans hs)

theorem perform_of_stored {tree : FileTree}
    (hd : answer (draft reader r) (ready r w) = .ok (p, .text text)) (hp : p.hasNul = false)
    (ht : (drafted reader r w).tree.write w.place.here p (Utf8.encode text.toList) = .ok tree) :
    perform reader r w = (.exit 0, delivered reader r w tree p text) := by
  have hplace := place_drafted reader r w
  have hhere : ({ drafted reader r w with tree }.record
      (Output.stored p (Utf8.encode text.toList))).place = w.place :=
    (World.recorded_record ..).place.trans hplace
  rw [← hplace] at ht
  have hstore := Output.run_store_text hp text (drafted reader r w)
  rw [ht] at hstore
  rw [perform_of_generated h ((generate_of_drafted hd).trans hstore), hhere, delivered]

end

/-- Every request takes one of these courses. -/
theorem course (reader : Program.Reader) (r : Request) (w : World) :
    Course reader r w (perform reader r w) := by
  cases h : answer (opening r) w with
  | error e =>
    rw [perform_of_unopened h]
    exact .unopened h
  | ok u =>
    cases hd : answer (draft reader r) (ready r w) with
    | error e =>
      rw [perform_of_stopped h hd]
      exact .stopped h hd
    | ok d =>
      obtain ⟨p, spelled⟩ := d
      rcases Output.store_fails_or_writes p spelled (drafted reader r w) with
        ⟨e, hs⟩ | ⟨hp, text, tree, rfl, ht⟩
      · rw [perform_of_unstored h hd hs]
        exact .unstored h hd hs
      · rw [place_drafted] at ht
        rw [perform_of_stored h hd hp ht]
        exact .stored h hd hp ht

/-- A reader that takes every text for a class of one letter. -/
def letterReader : Program.Reader := fun _ => ⟨Analysis.letterTree, false⟩

/-- A world with settings, one such class, and a template that includes another one. -/
def letterDesk : World where
  place := { here := ⟨.top, []⟩, home := ⟨.top, []⟩ }
  tree := ⟨[([Settings.fileName], .file (Utf8.encode
      "library_dir: .\nroot_files: [a]\nbuilders: [A]\noutput: o\ntemplate: t\n".toList)),
    (["a"], .file (Utf8.encode "class A\x7bm():T\x7d".toList)),
    (["t"], .file (Utf8.encode "«% include 'i' %»;".toList)),
    (["i"], .file (Utf8.encode "x".toList))]⟩

end SchemaWrappers.CommandLine
