import SchemaWrappers.Journal
import SchemaWrappers.Proofs.Log
import SchemaWrappers.Proofs.Log.Channels

/-! Runs of the log: each record goes to the sinks that were set up last and to no others, and behind
all that was there. -/
namespace SchemaWrappers

namespace World
variable {w w' : World} {p : Path} {l : Location}

/-- Where a log file is opened: where its path leads, unless a directory is there. -/
def opened? (w : World) (p : Path) : Option Location :=
  if p.hasNul then none
  else
    match w.tree.find w.place.here (w.absolute p) with
    | .error _ | .ok (_, some .directory) => none
    | .ok (l, _) => some l

theorem opened?_eq_some_iff : w.opened? p = some l ↔ p.hasNul = false ∧
    w.tree.Names w.place.here (w.absolute p) l ∧ w.tree.get? l ≠ some .directory := by
  rw [opened?]
  cases hp : p.hasNul with
  | true => simp
  | false =>
    rw [if_neg Bool.false_ne_true]
    cases hf : w.tree.find w.place.here (w.absolute p) with
    | error e => simp [FileTree.Names, hf]
    | ok found =>
      obtain ⟨l', e⟩ := found
      have hn : w.tree.Names w.place.here (w.absolute p) l' := ⟨e, hf⟩
      have he : e = w.tree.get? l' := congrArg Prod.snd (Except.ok.inj (hf.symm.trans hn.find))
      have hnames : w.tree.Names w.place.here (w.absolute p) l ↔ l' = l :=
        ⟨hn.unique, fun h => h ▸ hn⟩
      rw [hnames, he]
      rcases hentry : w.tree.get? l' with _ | _ | bytes
      · simp only [Option.some.injEq, true_and]
        exact ⟨fun h => ⟨h, by simp [← h, hentry]⟩, And.left⟩
      · simp only [reduceCtorEq, true_and, false_iff, not_and, not_not]
        rintro rfl
        exact hentry
      · simp only [Option.some.injEq, true_and]
        exact ⟨fun h => ⟨h, by simp [← h, hentry]⟩, And.left⟩

theorem opened?_changed {P : Location → Prop} (hplace : w'.place = w.place)
    (htree : w.tree.ChangedOnly P w'.tree) : w'.opened? p = w.opened? p := by
  have habsolute : w'.absolute p = w.absolute p := by rw [absolute, absolute, hplace]
  ext l
  rw [opened?_eq_some_iff, opened?_eq_some_iff, habsolute, hplace,
    FileTree.names_changed htree, ne_eq, ne_eq, htree.directories]

/-- The file tree with the line of a record in the log file, if there is one and it takes the record. -/
def filedIn (w : World) (s : Log.Sinks) (r : Log.Record) : FileTree :=
  match s.file with
  | some p => if s.inFile r then appendText w.tree w.place.here p (r.fileLine w.stamp) else w.tree
  | none => w.tree

theorem record_eq {s : Log.Sinks} (hs : w.sinks = some s) (r : Log.Record) :
    w.record r = { w with
      tree := w.filedIn s r
      console := w.console ++ if s.onConsole r then r.consoleLine else ""
      records := r :: w.records } := by
  obtain ⟨place, tree, stamp, sinks, printed, console, records, chance⟩ := w
  obtain rfl : sinks = some s := hs
  cases hc : s.onConsole r with
  | true =>
    cases hfile : s.file with
    | none => simp [record, filedIn, complain, hc, hfile]
    | some p => cases hf : s.inFile r <;> simp [record, filedIn, complain, hc, hfile, hf]
  | false =>
    cases hfile : s.file with
    | none => simp [record, filedIn, hc, hfile]
    | some p => cases hf : s.inFile r <;> simp [record, filedIn, hc, hfile, hf]

theorem filedIn_of_not_inFile {s : Log.Sinks} {r : Log.Record} (h : s.inFile r = false) :
    w.filedIn s r = w.tree := by
  rw [filedIn]
  cases s.file with
  | none => rfl
  | some p => simp [h]

theorem appended_filedIn {s : Log.Sinks} (hfile : s.file = some p) {r : Log.Record}
    (hr : s.inFile r = true) (hn : w.tree.Names w.place.here p l)
    (hd : w.tree.get? l ≠ some .directory) :
    w.tree.Appended (w.filedIn s r) l (Utf8.encode (r.fileLine w.stamp).toList) := by
  obtain ⟨tree, happend, h⟩ := FileTree.append_of_names (l := l) hn hd
  have hafter : appendText w.tree w.place.here p (r.fileLine w.stamp) = tree := by
    rw [appendText, happend]
  rw [filedIn, hfile]
  dsimp only
  rw [if_pos hr, hafter]
  exact h

end World

namespace Run
variable {w : World} {p : Path} {l : Location}

theorem run_configureLog_opened (h : w.opened? p = some l) (verbose quiet : Bool) :
    ∃ tree, w.tree.Appended tree l [] ∧ (configureLog verbose quiet (some p)).run w =
      (.ok (), { w with
        tree, sinks := some { Log.Sinks.ofFlags verbose quiet true with file := some (w.absolute p) } }) := by
  obtain ⟨hnul, hn, hd⟩ := World.opened?_eq_some_iff.mp h
  obtain ⟨tree, happend, happended⟩ :
      ∃ tree, w.tree.append w.place.here (w.absolute p) [] = .ok tree ∧ w.tree.Appended tree l [] :=
    FileTree.append_of_names hn hd
  refine ⟨tree, happended, ?_⟩
  rw [run_configureLog_some, hnul, if_neg Bool.false_ne_true, happend]

theorem run_configureLog_unopened (h : w.opened? p = none) (verbose quiet : Bool) :
    ∃ e, (configureLog verbose quiet (some p)).run w =
      (.error e, { w with sinks := some (.ofFlags verbose quiet true) }) := by
  rw [run_configureLog_some]
  split
  · exact ⟨_, rfl⟩
  · rename_i hnul
    cases happend : w.tree.append w.place.here (w.absolute p) [] with
    | error e => exact ⟨_, rfl⟩
    | ok tree =>
      obtain ⟨l, hn, hd⟩ := FileTree.names_of_append happend
      rw [World.opened?_eq_some_iff.mpr ⟨by simpa using hnul, hn, hd⟩] at h
      cases h

end Run

namespace Journal
open Log

/-- What the entries put on the console while records from `least` on are shown. -/
def said (least : Level) : List Entry → String
  | [] => ""
  | .configure verbose quiet _ :: es => said (consoleLevel verbose quiet) es
  | .log _ part level message :: es =>
    (if level.reaches least then Record.consoleLine ⟨level, channel part, message⟩ else "") ++
      said least es

/-- What the entries put into the file at a place while the file at `opened` takes records. -/
def filed (w : World) (l : Location) (opened : Option Location) : List Entry → String
  | [] => ""
  | .configure _ _ file :: es => filed w l (file.bind w.opened?) es
  | .log stamp part level message :: es =>
    (if opened = some l ∧ level.reaches .debug then
        Record.fileLine stamp ⟨level, channel part, message⟩ else "") ++ filed w l opened es

def Entry.opens (w : World) : Entry → Option Location
  | .configure _ _ file => file.bind w.opened?
  | .log .. => none

/-- The part on whose channel an entry makes a record, if it has a name. -/
def Entry.part : Entry → Option String
  | .configure .. => none
  | .log _ part _ _ => part

/-- What was put behind the text on the console and in each file, and which files were made. -/
structure Adds (w w' : World) (console : String) (file : Location → String)
    (made : Location → Prop) : Prop where
  printed : w'.printed = w.printed
  console : w'.console = w.console ++ console
  bytes : ∀ l, w'.tree.bytesAt l = w.tree.bytesAt l ++ Utf8.encode (file l).toList
  directories : ∀ l, w'.tree.get? l = some .directory ↔ w.tree.get? l = some .directory
  present : ∀ l, w'.tree.get? l ≠ none ↔ w.tree.get? l ≠ none ∨ made l

namespace Adds
variable {w w' w'' : World}

theorem refl (w : World) : Adds w w "" (fun _ => "") fun _ => False where
  printed := rfl
  console := String.append_empty.symm
  bytes l := (List.append_nil _).symm
  directories l := .rfl
  present l := by rw [or_false]

theorem trans {console console' : String} {file file' : Location → String}
    {made made' : Location → Prop} (h : Adds w w' console file made)
    (h' : Adds w' w'' console' file' made') :
    Adds w w'' (console ++ console') (fun l => file l ++ file' l) fun l => made l ∨ made' l where
  printed := h'.printed.trans h.printed
  console := by rw [h'.console, h.console, String.append_assoc]
  bytes l := by
    rw [h'.bytes, h.bytes, String.toList_append, Utf8.encode, Utf8.encode, Utf8.encode,
      List.flatMap_append, List.append_assoc]
  directories l := (h'.directories l).trans (h.directories l)
  present l := by rw [h'.present, h.present, or_assoc]

end Adds

/-- The sinks that were set up last are in force, and the file at `opened` takes records. What was
found of levels is what the sinks say. -/
structure InForce (w : World) (s : Sinks) (opened : Option Location) (j : Journal) : Prop where
  place : j.world.place = w.place
  tree : w.tree.ChangedOnly (fun _ => True) j.world.tree
  sinks : j.world.sinks = some s
  levels : s.threshold.weight ≤ s.console.weight
  file : s.file = none ∧ opened = none ∨ s.threshold = .debug ∧ ∃ p l bytes, s.file = some p ∧
    opened = some l ∧ j.world.tree.Names w.place.here p l ∧ j.world.tree.get? l = some (.file bytes)
  home : root ∈ j.channels.opened
  found : ∀ part level b, Undotted part →
    j.channels.found.lookup (channel part, level) = some b → b = level.reaches s.threshold

theorem Adds.congr {w w' : World} {console : String} {file file' : Location → String}
    {made made' : Location → Prop} (h : Adds w w' console file made) (hfile : ∀ l, file l = file' l)
    (hmade : ∀ l, w.tree.get? l ≠ none ∨ made l ↔ w.tree.get? l ≠ none ∨ made' l) :
    Adds w w' console file' made' where
  printed := h.printed
  console := h.console
  bytes l := by rw [h.bytes, hfile]
  directories := h.directories
  present l := (h.present l).trans (hmade l)

theorem Adds.of_tree_eq {w w' : World} {console : String} (hprinted : w'.printed = w.printed)
    (hconsole : w'.console = w.console ++ console) (htree : w'.tree = w.tree) :
    Adds w w' console (fun _ => "") fun _ => False where
  printed := hprinted
  console := hconsole
  bytes l := by
    rw [htree]
    exact (List.append_nil _).symm
  directories l := by rw [htree]
  present l := by rw [htree, or_false]

theorem Adds.sinks (w : World) (s : Option Sinks) :
    Adds w { w with sinks := s } "" (fun _ => "") fun l => none = some l := by
  have hadds : Adds w { w with sinks := s } "" (fun _ => "") fun _ => False :=
    .of_tree_eq rfl String.append_empty.symm rfl
  exact hadds.congr (fun _ => rfl) (by simp)

theorem Adds.of_appended {w w' : World} {console text : String} {l : Location}
    (hprinted : w'.printed = w.printed) (hconsole : w'.console = w.console ++ console)
    (htree : w.tree.Appended w'.tree l (Utf8.encode text.toList)) :
    Adds w w' console (fun l' => if l' = l then text else "") fun l' => l = l' where
  printed := hprinted
  console := hconsole
  bytes l' := by
    rw [htree.bytesAt]
    split
    · rfl
    · rfl
  directories := htree.changed.directories
  present := htree.present

theorem Adds.opened {w : World} {tree : FileTree} {l : Location} (h : w.tree.Appended tree l [])
    (s : Option Sinks) :
    Adds w { w with tree, sinks := s } "" (fun _ => "") fun l' => some l = some l' := by
  have htext : w.tree.Appended tree l (Utf8.encode "".toList) := h
  have hadds : Adds w { w with tree, sinks := s } "" (fun l' => if l' = l then "" else "")
      fun l' => l = l' := .of_appended rfl String.append_empty.symm htext
  exact hadds.congr (fun l' => by split <;> rfl) fun l' => by rw [Option.some.injEq]

theorem debug_le_consoleLevel (verbose quiet : Bool) :
    Level.debug.weight ≤ (consoleLevel verbose quiet).weight := by
  cases verbose <;> cases quiet <;> decide

variable {w : World} {j : Journal} {s : Sinks} {opened : Option Location}

/-- When the threshold is set, all that was found of levels is forgotten. -/
theorem inForce_fresh {world : World} (c : Channels) (hplace : world.place = w.place)
    (htree : w.tree.ChangedOnly (fun _ => True) world.tree) (hsinks : world.sinks = some s)
    (hlevels : s.threshold.weight ≤ s.console.weight)
    (hfile : s.file = none ∧ opened = none ∨ s.threshold = .debug ∧ ∃ p l bytes, s.file = some p ∧
      opened = some l ∧ world.tree.Names w.place.here p l ∧ world.tree.get? l = some (.file bytes)) :
    InForce w s opened ⟨world, { c.take root with found := [] }⟩ where
  place := hplace
  tree := htree
  sinks := hsinks
  levels := hlevels
  file := hfile
  home := Channels.mem_take _ _
  found _ _ _ _ hb := by cases hb

/-- Setting up puts the new sinks in force, with the file if it can be opened, whatever was before. -/
theorem inForce_configure (hplace : j.world.place = w.place)
    (htree : w.tree.ChangedOnly (fun _ => True) j.world.tree) (verbose quiet : Bool)
    (file : Option Path) :
    ∃ s, s.console = consoleLevel verbose quiet ∧
      InForce w s (file.bind w.opened?) (j.configure verbose quiet file).2 ∧
      Adds j.world (j.configure verbose quiet file).2.world "" (fun _ => "")
        fun l => file.bind w.opened? = some l := by
  have hlevels := debug_le_consoleLevel verbose quiet
  cases file with
  | none =>
    rw [configure, Run.run_configureLog_none]
    exact ⟨.ofFlags verbose quiet false, rfl,
      inForce_fresh _ hplace htree rfl (Int.le_refl _) (.inl ⟨rfl, rfl⟩), Adds.sinks j.world _⟩
  | some p =>
    rw [Option.bind_some, configure, ← World.opened?_changed hplace htree]
    cases ho : j.world.opened? p with
    | none =>
      obtain ⟨e, hrun⟩ := Run.run_configureLog_unopened ho verbose quiet
      rw [hrun]
      exact ⟨.ofFlags verbose quiet true, rfl,
        inForce_fresh _ hplace htree rfl hlevels (.inl ⟨rfl, rfl⟩), Adds.sinks j.world _⟩
    | some l =>
      obtain ⟨tree, happended, hrun⟩ := Run.run_configureLog_opened ho verbose quiet
      have hn : tree.Names w.place.here (j.world.absolute p) l := by
        rw [← hplace]
        exact (FileTree.names_changed happended.changed).mpr (World.opened?_eq_some_iff.mp ho).2.1
      have htree' := htree.trans (happended.changed.mono fun _ _ => trivial)
      rw [hrun]
      exact ⟨{ Sinks.ofFlags verbose quiet true with file := some (j.world.absolute p) }, rfl,
        inForce_fresh _ hplace htree' rfl hlevels
          (.inr ⟨rfl, _, l, _, rfl, rfl, hn, happended.file⟩), Adds.opened happended _⟩

section
variable {part : Option String} (h : InForce w s opened j) (hp : Undotted part) (stamp : String)
  (level : Level) (message : String)
include h hp

theorem log_eq : j.log stamp ⟨level, channel part, message⟩ =
    ⟨if level.reaches s.threshold then
        World.record { j.world with stamp } ⟨level, channel part, message⟩
      else { j.world with stamp },
      ((j.channels.take (channel part)).counts (channel part) level s.threshold).2⟩ := by
  have hhome := leadsHome_channel (Channels.mem_take_of_mem h.home (channel part)) hp
  have hcounts : ((j.channels.take (channel part)).counts (channel part) level s.threshold).1 =
      level.reaches s.threshold := by
    apply Channels.counts_eq
    rw [Channels.found_take]
    exact fun b => h.found part level b hp
  rw [log]
  dsimp only
  rw [if_pos hhome, h.sinks]
  dsimp only
  rw [hcounts]

theorem console_log : (j.log stamp ⟨level, channel part, message⟩).world.console =
    j.world.console ++
      if level.reaches s.console then Record.consoleLine ⟨level, channel part, message⟩ else "" := by
  have hshown (hl : level.reaches s.console = true) : level.reaches s.threshold = true := by
    rw [Level.reaches, decide_eq_true_iff] at hl ⊢
    exact Int.le_trans h.levels hl
  have hs : World.sinks { j.world with stamp } = some s := h.sinks
  rw [log_eq h hp]
  dsimp only
  by_cases hl : level.reaches s.threshold = true
  · rw [if_pos hl, World.record_eq hs, Sinks.onConsole, hl, Bool.true_and]
  · rw [if_neg hl, if_neg fun hc => hl (hshown hc), String.append_empty]

theorem tree_log : (j.log stamp ⟨level, channel part, message⟩).world.tree =
    World.filedIn { j.world with stamp } s ⟨level, channel part, message⟩ := by
  have hs : World.sinks { j.world with stamp } = some s := h.sinks
  rw [log_eq h hp]
  dsimp only
  by_cases hl : level.reaches s.threshold = true
  · rw [if_pos hl, World.record_eq hs]
  · rw [if_neg hl, World.filedIn_of_not_inFile (by simp [Sinks.inFile, hl])]

theorem recorded_log : World.Recorded { j.world with stamp }
    (j.log stamp ⟨level, channel part, message⟩).world := by
  rw [log_eq h hp]
  dsimp only
  split
  · exact World.recorded_record _ _
  · exact .refl _

/-- The file that takes records takes the line of a record that is weighty enough; else no file
changes. -/
theorem tree_log_cases :
    (∃ l, opened = some l ∧ level.reaches .debug = true ∧
        j.world.tree.Appended (j.log stamp ⟨level, channel part, message⟩).world.tree l
          (Utf8.encode (Record.fileLine stamp ⟨level, channel part, message⟩).toList)) ∨
      (∀ l, ¬ (opened = some l ∧ level.reaches .debug = true)) ∧
        (j.log stamp ⟨level, channel part, message⟩).world.tree = j.world.tree := by
  rw [tree_log h hp]
  rcases h.file with ⟨hfile, rfl⟩ | ⟨hthreshold, p, l, bytes, hfile, rfl, hn, hentry⟩
  · refine .inr ⟨by simp, ?_⟩
    rw [World.filedIn, hfile]
  · by_cases hl : level.reaches .debug = true
    · have hin : s.inFile ⟨level, channel part, message⟩ = true := by
        rw [Sinks.inFile, hthreshold, hl, Bool.true_and]
      rw [← h.place] at hn
      exact .inl ⟨l, rfl, hl,
        World.appended_filedIn (w := { j.world with stamp }) hfile hin hn (by rw [hentry]; simp)⟩
    · exact .inr ⟨by simp [hl], World.filedIn_of_not_inFile (by simp [Sinks.inFile, hl])⟩

theorem inForce_log : InForce w s opened (j.log stamp ⟨level, channel part, message⟩) where
  place := (recorded_log h hp stamp level message).place.trans h.place
  tree := h.tree.trans ((recorded_log h hp stamp level message).tree.mono fun _ _ => trivial)
  sinks := (recorded_log h hp stamp level message).sinks.trans h.sinks
  levels := h.levels
  file := by
    rcases h.file with hnone | ⟨hthreshold, p, l, bytes, hfile, hopened, hn, hentry⟩
    · exact .inl hnone
    · have hchanged := (recorded_log h hp stamp level message).tree
      have hn' := (FileTree.names_changed hchanged).mpr hn
      refine .inr ⟨hthreshold, p, l, ?_⟩
      rcases tree_log_cases h hp stamp level message with ⟨l', hl', -, happended⟩ | ⟨-, hsame⟩
      · obtain rfl : l = l' := Option.some.inj (hopened.symm.trans hl')
        exact ⟨_, hfile, hopened, hn', happended.file⟩
      · exact ⟨bytes, hfile, hopened, hn', by rw [hsame, hentry]⟩
  home := by
    rw [log_eq h hp]
    dsimp only
    rw [Channels.opened_counts]
    exact Channels.mem_take_of_mem h.home _
  found part' level' b hp' hb := by
    rw [log_eq h hp] at hb
    rcases Channels.lookup_counts hb with hb | ⟨hkey, hb⟩
    · rw [Channels.found_take] at hb
      exact h.found part' level' b hp' hb
    · rw [hb, (Prod.mk.inj hkey).2]

/-- A record goes once to each of the sinks in force whose level it reaches. -/
theorem adds_log : Adds j.world (j.log stamp ⟨level, channel part, message⟩).world
    (if level.reaches s.console then Record.consoleLine ⟨level, channel part, message⟩ else "")
    (fun l => if opened = some l ∧ level.reaches .debug then
      Record.fileLine stamp ⟨level, channel part, message⟩ else "") fun _ => False := by
  have hprinted : (j.log stamp ⟨level, channel part, message⟩).world.printed = j.world.printed :=
    (recorded_log h hp stamp level message).printed
  have hconsole := console_log h hp stamp level message
  rcases tree_log_cases h hp stamp level message with ⟨l, hl, hlevel, happended⟩ | ⟨hnone, hsame⟩
  · refine (Adds.of_appended hprinted hconsole happended).congr (fun l' => ?_) fun l' => ?_
    · rw [hl, hlevel]
      simp [eq_comm]
    · rcases h.file with ⟨-, hopened⟩ | ⟨-, -, k, bytes, -, hopened, -, hentry⟩
      · rw [hl] at hopened
        cases hopened
      · obtain rfl : l = k := Option.some.inj (hl.symm.trans hopened)
        rw [or_false]
        refine or_iff_left_of_imp ?_
        rintro rfl
        simp [hentry]
  · refine (Adds.of_tree_eq hprinted hconsole hsame).congr (fun l => ?_) fun _ => .rfl
    rw [if_neg (hnone l)]

end

/-- What entries add is said by the sinks in force, until they are set up anew. -/
theorem adds_run (h : InForce w s opened j) {es : List Entry}
    (hes : ∀ e ∈ es, Undotted e.part) : (∃ s' opened', InForce w s' opened' (j.run es)) ∧
      Adds j.world (j.run es).world (said s.console es) (fun l => filed w l opened es)
        fun l => ∃ e ∈ es, e.opens w = some l := by
  induction es generalizing j s opened with
  | nil => exact ⟨⟨s, opened, h⟩, (Adds.refl j.world).congr (fun _ => rfl) (by simp)⟩
  | cons e es ih =>
    obtain ⟨he, hes'⟩ := List.forall_mem_cons.mp hes
    cases e with
    | configure verbose quiet file =>
      obtain ⟨s', hs', hforce, hadds⟩ := inForce_configure h.place h.tree verbose quiet file
      obtain ⟨hlast, hrest⟩ := ih hforce hes'
      have hall := hadds.trans hrest
      rw [String.empty_append, hs'] at hall
      exact ⟨hlast, hall.congr (fun l => String.empty_append) fun l => by simp [Entry.opens]⟩
    | log stamp part level message =>
      obtain ⟨hlast, hrest⟩ := ih (inForce_log h he stamp level message) hes'
      have hall := (adds_log h he stamp level message).trans hrest
      exact ⟨hlast, hall.congr (fun l => rfl) fun l => by simp [Entry.opens]⟩

/-- The console by itself, as it is set up before a file is opened. -/
def consoleAlone (verbose quiet : Bool) : Sinks where
  threshold := .debug
  console := consoleLevel verbose quiet

/-- Setting up fails exactly if its file cannot be opened. -/
theorem configure_error_iff (j : Journal) (verbose quiet : Bool) (file : Option Path) :
    (∃ e, (j.configure verbose quiet file).1 = .error e) ↔ ∃ p ∈ file, j.world.opened? p = none := by
  cases file with
  | none =>
    rw [configure, Run.run_configureLog_none]
    simp
  | some p =>
    cases ho : j.world.opened? p with
    | none =>
      obtain ⟨e, hrun⟩ := Run.run_configureLog_unopened ho verbose quiet
      rw [configure, hrun]
      exact iff_of_true ⟨e, rfl⟩ ⟨p, rfl, ho⟩
    | some l =>
      obtain ⟨tree, -, hrun⟩ := Run.run_configureLog_opened ho verbose quiet
      rw [configure, hrun]
      simp [ho]

/-- If it fails, the console that it asks for is all that is set up, and nothing else has changed. -/
theorem world_configure_of_error {verbose quiet : Bool} {file : Option Path} {e : Failure}
    (h : (j.configure verbose quiet file).1 = .error e) :
    (j.configure verbose quiet file).2.world =
      { j.world with sinks := some (consoleAlone verbose quiet) } := by
  obtain ⟨p, rfl, ho⟩ := (configure_error_iff j verbose quiet file).mp ⟨e, h⟩
  obtain ⟨_, hrun⟩ := Run.run_configureLog_unopened ho verbose quiet
  rw [configure, hrun]
  rfl

/-- From whatever state the log is set up, the entries that follow go to the sinks that were set up
last and to no others: behind the text on the console stands each record whose level reaches that of
the sinks, once and in order, and behind the text of a file each one of at least the lowest level that
was made while the file was open. Where files are opened does not change meanwhile. Whenever setting
up fails, it is for its file, and the console alone is in force. -/
theorem run_follows_last_configure (j : Journal) (verbose quiet : Bool) (file : Option Path)
    {es : List Entry} (hes : ∀ e ∈ es, Undotted e.part) :
    Adds j.world (j.run (.configure verbose quiet file :: es)).world
        (said (consoleLevel verbose quiet) es)
        (fun l => filed j.world l (file.bind j.world.opened?) es)
        (fun l => ∃ e ∈ .configure verbose quiet file :: es, e.opens j.world = some l) ∧
      (∀ p, (j.run (.configure verbose quiet file :: es)).world.opened? p = j.world.opened? p) ∧
      ∀ (i : Journal) (verbose quiet : Bool) (file : Option Path),
        ((∃ e, (i.configure verbose quiet file).1 = .error e) ↔
            ∃ p ∈ file, i.world.opened? p = none) ∧
          ∀ e, (i.configure verbose quiet file).1 = .error e →
            (i.configure verbose quiet file).2.world =
              { i.world with sinks := some (consoleAlone verbose quiet) } := by
  obtain ⟨s, hs, hforce, hadds⟩ := inForce_configure (w := j.world) rfl (.refl _ _) verbose quiet file
  obtain ⟨⟨s', opened', hlast⟩, hrest⟩ := adds_run hforce hes
  refine ⟨?_, fun p => World.opened?_changed hlast.place hlast.tree,
    fun i verbose quiet file =>
      ⟨configure_error_iff i verbose quiet file, fun e => world_configure_of_error⟩⟩
  have hall := hadds.trans hrest
  rw [String.empty_append, hs] at hall
  exact hall.congr (fun l => String.empty_append) fun l => by simp [Entry.opens]

def startedWorld : World where
  place := { here := ⟨.top, []⟩, home := ⟨.top, []⟩ }
  tree := ⟨[(["d"], .directory), (["f"], .file (Utf8.encode "old\n".toList))]⟩

/-- The console is set up with a file, with another one that is a directory, and with the first one
again. -/
theorem run_of_three_configures :
    let j' := run ⟨startedWorld, {}⟩ [.configure false true (some (.ofText "f")),
      .log "1" (some "a") .info "p", .log "2" none .error "q",
      .configure true false (some (.ofText "d")), .log "3" (some "a.b") .debug "r",
      .configure false false (some (.ofText "f")), .log "4" (some "a") ⟨9⟩ "s",
      .log "5" (some "a") .info "t"]
    j'.world.console = "[buildergen] ERROR q\n[a.b] DEBUG r\n[a] INFO t\n" ∧
      j'.world.tree.bytesAt ["f"] = Utf8.encode
        "old\n1 INFO buildergen.a: p\n2 ERROR buildergen: q\n5 INFO buildergen.a: t\n".toList := by
  intro j'
  have hes : ∀ e ∈ [.log "1" (some "a") .info "p", .log "2" none .error "q",
      .configure true false (some (.ofText "d")), .log "3" (some "a.b") .debug "r",
      .configure false false (some (.ofText "f")), .log "4" (some "a") ⟨9⟩ "s",
      .log "5" (some "a") .info "t"], Undotted (Entry.part e) := by decide
  have hadds := (run_follows_last_configure ⟨startedWorld, {}⟩ false true (some (.ofText "f")) hes).1
  refine ⟨hadds.console.trans ?_, (hadds.bytes ["f"]).trans ?_⟩
  · decide +kernel
  · decide +kernel

/-- A record on a channel whose name begins with a dot is not shown, though the console shows records of
its level. -/
theorem dotted_record_not_said :
    Level.info.reaches (consoleLevel false false) = true ∧
      (run ⟨startedWorld, {}⟩ [.configure false false none, .log "" (some ".x") .info "m"]).world.console =
        startedWorld.console ∧
      Record.consoleLine ⟨.info, channel (some ".x"), "m"⟩ = "[.x] INFO m\n" := by
  decide +kernel

end Journal
end SchemaWrappers
