import Mathlib.Data.List.Induction
import SchemaWrappers.Proofs.FileTree.Standing
import SchemaWrappers.Proofs.Output

/-! Whose options a module is laid out with: those of the nearest options file at or above the directory
of the file that is written, unless the path begins at the home directory. -/
namespace SchemaWrappers.Output
open Run

variable {t : FileTree} {here path p : Path} {dir place : Location} {own : List (String × Json)}
  {content : String} {w w' : World}

/-- An options file stands in a directory; a directory of that name is none. -/
def HoldsOptions (t : FileTree) (place : Location) : Prop :=
  ∃ bytes, t.get? (place ++ [optionsName]) = some (.file bytes)

/-- The nearest of the directories at or above `dir` that hold options files. -/
structure Nearest (t : FileTree) (dir place : Location) : Prop where
  above : place <+: dir
  holds : HoldsOptions t place
  nearest : ∀ other, other <+: dir → HoldsOptions t other → other <+: place

/-- The options that hold in a directory: those of the nearest options file, or none if there is no such
file. -/
inductive OptionsFor (t : FileTree) (room : Nat) (dir : Location) : List (String × Json) → Prop where
  | nearest {place : Location} {bytes : List UInt8} {cs : List Char} {own : List (String × Json)}
      (h : Nearest t dir place) (hfile : t.get? (place ++ [optionsName]) = some (.file bytes))
      (hd : Utf8.decode bytes = .ok cs)
      (hparse : Json.parse room (String.ofList (FileTree.unifyLines cs)) = .ok (.object own)) :
      OptionsFor t room dir own
  | none (h : ∀ place, place <+: dir → ¬ HoldsOptions t place) : OptionsFor t room dir []

theorem Nearest.unique {place' : Location} (h : Nearest t dir place) (h' : Nearest t dir place') :
    place = place' := by
  have hle : place <+: place' := h'.nearest place h.above h.holds
  have hge : place' <+: place := h.nearest place' h'.above h'.holds
  exact hle.eq_of_length (Nat.le_antisymm hle.length_le hge.length_le)

/-- A tree and a directory settle the options. -/
theorem OptionsFor.unique {room : Nat} {own' : List (String × Json)} (h : OptionsFor t room dir own)
    (h' : OptionsFor t room dir own') : own = own' := by
  cases h with
  | nearest h hfile hd hparse =>
    cases h' with
    | nearest h' hfile' hd' hparse' =>
      obtain rfl := h.unique h'
      rw [hfile] at hfile'
      cases hfile'
      rw [hd] at hd'
      cases hd'
      rw [hparse] at hparse'
      cases hparse'
      rfl
    | none h' => exact absurd h.holds (h' _ h.above)
  | none h =>
    cases h' with
    | nearest h' => exact absurd h'.holds (h _ h'.above)
    | none => rfl

theorem candidates_nil (a : Anchor) : candidates ⟨a, []⟩ = [⟨a, [optionsName]⟩] := by
  rw [candidates, Path.ancestors_nil, List.map_singleton, child_optionsName]
  rfl

theorem candidates_concat (a : Anchor) (ns : List String) (n : String) :
    candidates ⟨a, ns ++ [n]⟩ = ⟨a, ns ++ [n] ++ [optionsName]⟩ :: candidates ⟨a, ns⟩ := by
  rw [candidates, Path.ancestors_concat, List.map_cons, child_optionsName, candidates]

/-- The first candidate is taken if an options file stands there, and passed over if not. -/
theorem firstFile_cons_absolute (ht : t.IsTree) {l : Location} (hl : ∀ n ∈ l, IsName n) {ps : List Path}
    {found : Option Path} (h : firstFile t here (⟨.top, l⟩ :: ps) = .ok found) :
    (∃ bytes, t.get? l = some (.file bytes)) ∧ found = some ⟨.top, l⟩ ∨
      (¬ ∃ bytes, t.get? l = some (.file bytes)) ∧ firstFile t here ps = .ok found := by
  rw [firstFile_cons, bind_eq_ok_iff] at h
  obtain ⟨isFile, hfile, h⟩ := h
  have hiff := FileTree.isFile_absolute ht hl hfile
  cases isFile with
  | true => exact .inl ⟨hiff.mp rfl, (Except.ok.inj h).symm⟩
  | false => exact .inr ⟨fun hf => Bool.false_ne_true (hiff.mpr hf), h⟩

/-- The search goes up from a directory to the nearest one that holds an options file. -/
theorem firstFile_candidates (ht : t.IsTree) (hdir : ∀ n ∈ dir, IsName n) {found : Option Path}
    (h : firstFile t here (candidates ⟨.top, dir⟩) = .ok found) :
    (∃ place, Nearest t dir place ∧ found = some ⟨.top, place ++ [optionsName]⟩) ∨
      (∀ place, place <+: dir → ¬ HoldsOptions t place) ∧ found = none := by
  have hname : IsName optionsName := by decide
  induction dir using List.reverseRecOn with
  | nil =>
    rw [candidates_nil] at h
    rcases firstFile_cons_absolute ht (Path.forall_isName_concat hdir hname) h with
      ⟨hfile, rfl⟩ | ⟨hfile, h⟩
    · exact .inl ⟨[], ⟨List.prefix_rfl, hfile, fun _ h _ => h⟩, rfl⟩
    · refine .inr ⟨fun place hplace => ?_, (Except.ok.inj h).symm⟩
      rwa [List.prefix_nil.mp hplace]
  | append_singleton dir n ih =>
    rw [candidates_concat] at h
    rcases firstFile_cons_absolute ht (Path.forall_isName_concat hdir hname) h with
      ⟨hfile, rfl⟩ | ⟨hfile, h⟩
    · exact .inl ⟨dir ++ [n], ⟨List.prefix_rfl, hfile, fun _ h _ => h⟩, rfl⟩
    · -- What holds an options file at or above `dir ++ [n]` is at or above `dir`.
      have hstep : ∀ place, place <+: dir ++ [n] → HoldsOptions t place → place <+: dir := by
        intro place hplace hholds
        rcases List.prefix_concat_iff.mp hplace with rfl | hplace
        · exact absurd hholds hfile
        · exact hplace
      have hdir : ∀ m ∈ dir, IsName m := fun m hm => hdir m (List.mem_append_left _ hm)
      rcases ih hdir h with ⟨place, hnear, rfl⟩ | ⟨hnone, rfl⟩
      · refine .inl ⟨place, ⟨hnear.above.trans (List.prefix_append ..), hnear.holds, ?_⟩, rfl⟩
        exact fun other hother hholds => hnear.nearest other (hstep other hother hholds) hholds
      · exact .inr ⟨fun place hplace hholds => hnone place (hstep place hplace hholds) hholds, rfl⟩

theorem parse_of_optionsOf {room : Nat} {file : Path} {text : String}
    (h : optionsOf room file text = .ok own) : Json.parse room text = .ok (.object own) := by
  rw [optionsOf] at h
  split at h
  · rename_i hparse
    rw [hparse, Except.ok.inj h]
  · cases h
  · split at h
    · cases h
    · cases h
    · cases h

/-- What a module is laid out with is set by the options that hold where the search begins. -/
theorem optionsFor_of_projectOptions (ht : w.tree.IsTree)
    (hhere : w.tree.get? w.place.here.names = some .directory)
    (h : answer (projectOptions path) w = .ok own) : ∃ q, path.parent.expand w.place = some q ∧
      OptionsFor w.tree w.place.limits.json (q.resolve w.place.here).names own := by
  rw [answer_projectOptions] at h
  obtain ⟨found, hfound, h⟩ := bind_eq_ok_iff.mp h
  rw [answer_findOptions, answer_expand] at hfound
  obtain ⟨q, hq, hfound⟩ := bind_eq_ok_iff.mp hfound
  obtain ⟨dir, hdir, hfound⟩ := bind_eq_ok_iff.mp hfound
  rw [answer_resolve] at hdir
  split_ifs at hdir with hnul
  obtain rfl := Except.ok.inj hdir
  have hexpand : path.parent.expand w.place = some q := by
    cases he : path.parent.expand w.place with
    | none =>
      rw [he] at hq
      cases hq
    | some q' =>
      rw [he] at hq
      rw [Except.ok.inj hq]
  refine ⟨q, hexpand, ?_⟩
  have hnames : ∀ n ∈ (q.resolve w.place.here).names, IsName n := by
    refine Path.isName_of_mem_follow ?_ ?_
    · split
      · simp
      · exact ht.named _ _ hhere
    · simpa [Path.hasNul] using hnul
  rcases firstFile_candidates ht hnames (mapError_eq_ok_iff.mp hfound) with
    ⟨place, hnear, rfl⟩ | ⟨hnone, rfl⟩
  · obtain ⟨-, bytes, hlook⟩ := firstFile_eq_some (mapError_eq_ok_iff.mp hfound)
    obtain ⟨bytes', hfile⟩ := hnear.holds
    have hentry := FileTree.look_absolute ht (ht.named _ _ hfile) hlook
    dsimp only at h
    rw [answer_readText_of_look hlook, FileTree.readText_file hlook] at h
    cases hd : Utf8.decode bytes with
    | error f =>
      rw [hd] at h
      cases h
    | ok cs =>
      rw [hd] at h
      exact .nearest hnear hentry.symm hd (parse_of_optionsOf h)
  · cases h
    exact .none hnone

theorem file_of_store {spelled : Text.Spelled} (h : (store path spelled).run w = (.ok p, w')) :
    ∃ text file, spelled = .text text ∧ w.tree.Names w.place.here path file ∧
      w.tree.get? file ≠ some .directory ∧
      w.tree.ChangedOnly (fun l => l = file ∨ w.LogPlace l) w'.tree ∧
      (¬ w.LogPlace file → w'.tree.get? file = some (.file (Utf8.encode text.toList))) := by
  obtain ⟨text, tree, rfl, hwrite, rfl⟩ := stored_of_store h
  obtain ⟨file, hn, hne, hd, bytes, -, rfl⟩ := FileTree.update_eq_ok hwrite
  have hput := FileTree.changed_put (Utf8.encode text.toList) hne hd
  have hrecord := World.changed_by_record hput (stored path (Utf8.encode text.toList))
  refine ⟨text, file, rfl, hn, hd, ?_, fun hfile => ?_⟩
  · exact (hput.mono fun l hl => .inl hl).trans (hrecord.mono fun l hl => .inr hl)
  · rw [hrecord.others file hfile]
    exact FileTree.get?_put_same w.tree hne _

/-- A module that is written was laid out with what its project sets, and stored in one file. -/
theorem file_of_write (h : (write none path content).run w = (.ok p, w')) :
    ∃ own text file, answer (projectOptions path) w = .ok own ∧
      layOut path content own = .ok (.text text) ∧
      w.tree.Names w.place.here path file ∧ w.tree.get? file ≠ some .directory ∧
      w.tree.ChangedOnly (fun l => l = file ∨ w.LogPlace l) w'.tree ∧
      (¬ w.LogPlace file → w'.tree.get? file = some (.file (Utf8.encode text.toList))) := by
  rw [write, run_bind] at h
  have hrecorded := (records_format content path).recorded w
  have hanswer := answer_format path content w
  rw [answer] at hanswer
  rcases hformat : (format none content path).run w with ⟨e | spelled, w₁⟩
  · rw [hformat] at h
    cases h
  · rw [hformat] at h hrecorded hanswer
    obtain ⟨own, hown, htext⟩ := bind_eq_ok_iff.mp hanswer.symm
    obtain ⟨text, file, rfl, hn, hd, hchanged, hfile⟩ := file_of_store h
    rw [hrecorded.place, FileTree.names_changed hrecorded.tree] at hn
    refine ⟨own, text, file, hown, htext, hn, fun hdir => ?_, ?_, fun hl => hfile fun hl' => ?_⟩
    · exact hd ((hrecorded.tree.directories file).mpr hdir)
    · refine (hrecorded.tree.mono fun l hl => .inr hl).trans (hchanged.mono fun l hl => ?_)
      exact hl.imp_right (hrecorded.logPlace l).mp
    · exact hl ((hrecorded.logPlace file).mp hl')

/-- A module that is written was laid out with the options that hold in the directory of the file that is
made or overwritten, and nothing else is changed but the log. Only where the path of its directory begins
at the home of a user they are those that hold in a directory below that home, though the file does not
stand there. -/
theorem written_with_nearest_options (ht : w.tree.IsTree)
    (hhere : w.tree.get? w.place.here.names = some .directory)
    (h : (write none path content).run w = (.ok p, w')) :
    ∃ own text file, layOut path content own = .ok (.text text) ∧
      w.tree.Names w.place.here path file ∧
      w.tree.ChangedOnly (fun l => l = file ∨ w.LogPlace l) w'.tree ∧
      (¬ w.LogPlace file → w'.tree.get? file = some (.file (Utf8.encode text.toList))) ∧
      ((∀ n rest, ¬ path.parent.StartsAtHome n rest) →
        OptionsFor w.tree w.place.limits.json file.dropLast own) ∧
      ∀ n rest, path.parent.StartsAtHome n rest → ∃ home, w.place.homeOf? n = some home ∧
        OptionsFor w.tree w.place.limits.json
          ((home.join ⟨.here, rest⟩).resolve w.place.here).names own := by
  obtain ⟨own, text, file, hown, htext, hn, hd, hchanged, hfile⟩ := file_of_write h
  obtain ⟨q, hq, hoptions⟩ := optionsFor_of_projectOptions ht hhere hown
  refine ⟨own, text, file, htext, hn, hchanged, hfile, fun hpath => ?_, fun n rest hpath => ?_⟩
  · rw [Path.expand_of_not_startsAtHome hpath, Option.some.injEq] at hq
    rw [FileTree.dropLast_of_names ht hhere hn hd, hq]
    exact hoptions
  · rw [Path.expand_of_startsAtHome hpath, Option.map_eq_some_iff] at hq
    obtain ⟨home, hhome, rfl⟩ := hq
    exact ⟨home, hhome, hoptions⟩

def strayContent : String := "function f() \x7b\nreturn 1;\n\x7d\n"

def indented (n : Nat) : String :=
  "function f() \x7b\n" ++ String.ofList (List.replicate n ' ') ++ "return 1;\n\x7d\n"

def indentOptions (n : Nat) : String := s!"\x7b\"indent_size\": {n}\x7d"

/-- The working directory has a directory that is named like the home directory, and both have options
files. -/
def strayDesk : World where
  place := { here := ⟨.top, ["p"]⟩, home := ⟨.top, ["h"]⟩ }
  tree := ⟨[(["p"], .directory), (["h"], .directory), (["p", "~"], .directory),
    (["p", "~", optionsName], .file (Utf8.encode (indentOptions 4).toList)),
    (["h", optionsName], .file (Utf8.encode (indentOptions 8).toList))]⟩

/-- Written by a way round, a module in that directory is laid out with the options there. -/
theorem nearest_options_by_a_way_round : let path := Path.ofText "../p/~/b.js"
    strayDesk.tree.IsTree ∧ strayDesk.tree.get? strayDesk.place.here.names = some .directory ∧
    ∃ w', (write none path strayContent).run strayDesk = (.ok path, w') ∧
      ∃ own text file, layOut path strayContent own = .ok (.text text) ∧
        strayDesk.tree.Names strayDesk.place.here path file ∧
        strayDesk.tree.ChangedOnly (fun l => l = file ∨ strayDesk.LogPlace l) w'.tree ∧
        (¬ strayDesk.LogPlace file → w'.tree.get? file = some (.file (Utf8.encode text.toList))) ∧
        OptionsFor strayDesk.tree strayDesk.place.limits.json file.dropLast own := by
  intro path
  have htree : strayDesk.tree.IsTree := FileTree.isTree_of_entries (by decide +kernel)
  have hhere : strayDesk.tree.get? strayDesk.place.here.names = some .directory := by decide +kernel
  have hok : ((write none path strayContent).run strayDesk).1 = .ok path := by decide +kernel
  rcases hrun : (write none path strayContent).run strayDesk with ⟨x, w'⟩
  rw [hrun] at hok
  obtain rfl : x = .ok path := hok
  obtain ⟨own, text, file, htext, hn, hchanged, hfile, hoptions, -⟩ :=
    written_with_nearest_options htree hhere hrun
  refine ⟨htree, hhere, w', rfl, own, text, file, htext, hn, hchanged, hfile, hoptions ?_⟩
  have hparent : path.parent = ⟨.here, ["..", "p", "~"]⟩ := by decide +kernel
  rintro n rest ⟨hstart, hn⟩
  rw [hparent] at hstart
  cases hstart
  exact absurd hn (by decide +kernel)

/-- Written by a path that begins with `~`, the module in that directory is laid out with the options of
the home directory, and not with those that hold where it stands. -/
theorem options_of_home_stray : let path := Path.ofText "~/b.js"
    ∃ w', (write none path strayContent).run strayDesk = (.ok path, w') ∧
      strayDesk.tree.Names strayDesk.place.here path ["p", "~", "b.js"] ∧
      w'.tree.get? ["p", "~", "b.js"] = some (.file (Utf8.encode (indented 8).toList)) ∧
      ∀ own, OptionsFor strayDesk.tree strayDesk.place.limits.json ["p", "~"] own →
        layOut path strayContent own = .ok (.text (indented 4)) := by
  intro path
  obtain ⟨hok, hwritten⟩ : ((write none path strayContent).run strayDesk).1 = .ok path ∧
      ((write none path strayContent).run strayDesk).2.tree.get? ["p", "~", "b.js"] =
        some (.file (Utf8.encode (indented 8).toList)) := by decide +kernel
  rcases hrun : (write none path strayContent).run strayDesk with ⟨x, w'⟩
  rw [hrun] at hok hwritten
  obtain rfl : x = .ok path := hok
  refine ⟨w', rfl, ⟨none, by decide +kernel⟩, hwritten, fun own h => ?_⟩
  have hfile : strayDesk.tree.get? (["p", "~"] ++ [optionsName]) =
      some (.file (Utf8.encode (indentOptions 4).toList)) := by decide +kernel
  have hnear : Nearest strayDesk.tree ["p", "~"] ["p", "~"] :=
    ⟨List.prefix_rfl, ⟨_, hfile⟩, fun _ hother _ => hother⟩
  have hdecode : Utf8.decode (Utf8.encode (indentOptions 4).toList) = .ok (indentOptions 4).toList := by
    decide +kernel
  have hlaid : (optionsOf strayDesk.place.limits.json path
      (String.ofList (FileTree.unifyLines (indentOptions 4).toList))).bind
      (layOut path strayContent) = .ok (.text (indented 4)) := by decide +kernel
  obtain ⟨own', hread, hlaid⟩ := bind_eq_ok_iff.mp hlaid
  rw [h.unique (.nearest hnear hfile hdecode (parse_of_optionsOf hread))]
  exact hlaid

end SchemaWrappers.Output
