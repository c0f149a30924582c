import SchemaWrappers.Output
import SchemaWrappers.Proofs.Log
import SchemaWrappers.Proofs.Path
import SchemaWrappers.Proofs.Script.Refusals

/-! Laying out and storing a module: what is looked at for it, what can go wrong unreported, and the
one file that is changed. -/
namespace SchemaWrappers.Output
open Run

variable {w w' : World} {path : Path} {content : String} {options : Option (List (String × Json))}
  {e : Failure}

def candidates (start : Path) : List Path := start.ancestors.map (·.child optionsName)

def ofRead (room : Nat) (file : Path) : Except ReadError String → Except Failure (List (String × Json))
  | .error (.file f) => .error (.formatUnreadable file.text f.message)
  | .error (.encoding f) => .error (.encoding f)
  | .ok text => optionsOf room file text

section
variable {t t' : FileTree} {here p : Path} {ps : List Path} {f : FileError}

theorem firstFile_cons (t : FileTree) (here p : Path) (ps : List Path) :
    firstFile t here (p :: ps) = (t.isFile here p).bind fun found =>
      if found then .ok (some p) else firstFile t here ps := rfl

theorem firstFile_eq_some (h : firstFile t here ps = .ok (some p)) :
    p ∈ ps ∧ ∃ bytes, t.look here p = .ok (some (.file bytes)) := by
  induction ps with
  | nil => cases h
  | cons q ps ih =>
    rw [firstFile_cons, bind_eq_ok_iff] at h
    obtain ⟨found, hq, h⟩ := h
    cases found with
    | true =>
      cases h
      exact ⟨List.mem_cons_self .., FileTree.isFile_eq_true.mp hq⟩
    | false =>
      obtain ⟨hp, hfile⟩ := ih h
      exact ⟨List.mem_cons_of_mem _ hp, hfile⟩

/-- Looking for a file fails at the first path that cannot be looked at, if no file comes before. -/
theorem firstFile_eq_error_iff : firstFile t here ps = .error f ↔ ∃ before p after,
    ps = before ++ p :: after ∧ (∀ b ∈ before, t.isFile here b = .ok false) ∧
      t.look here p = .error f := by
  induction ps with
  | nil => simp [firstFile]
  | cons q ps ih =>
    rw [firstFile_cons, bind_eq_error_iff, FileTree.isFile_eq_error]
    constructor
    · rintro (hq | ⟨found, hq, h⟩)
      · exact ⟨[], q, ps, rfl, by simp, hq⟩
      · cases found with
        | true => cases h
        | false =>
          obtain ⟨before, p, after, rfl, hbefore, hp⟩ := ih.mp h
          exact ⟨q :: before, p, after, rfl, List.forall_mem_cons.mpr ⟨hq, hbefore⟩, hp⟩
    · rintro ⟨_ | ⟨b, before⟩, p, after, h, hbefore, hp⟩
      · obtain ⟨rfl, rfl⟩ := List.cons.inj h
        exact .inl hp
      · obtain ⟨rfl, rfl⟩ := List.cons.inj h
        obtain ⟨hq, hbefore⟩ := List.forall_mem_cons.mp hbefore
        exact .inr ⟨false, hq, ih.mpr ⟨before, p, after, rfl, hbefore, hp⟩⟩

theorem firstFile_changed {P : Location → Prop} (h : t.ChangedOnly P t')
    (hps : ∀ p ∈ ps, ∀ l, t.Names here p l → ¬ P l) :
    firstFile t' here ps = firstFile t here ps := by
  induction ps with
  | nil => rfl
  | cons p ps ih =>
    obtain ⟨hp, hps⟩ := List.forall_mem_cons.mp hps
    rw [firstFile_cons, firstFile_cons, FileTree.isFile_changed h hp, ih hps]

end

theorem child_optionsName (p : Path) :
    p.child optionsName = { p with names := p.names ++ [optionsName] } :=
  Path.child_of_name (by decide) p

theorem getLast?_of_candidate {t : FileTree} {here start p : Path} {l : Location}
    (hp : p ∈ candidates start) (hl : t.Names here p l) : l.getLast? = some optionsName := by
  obtain ⟨dir, -, rfl⟩ := List.mem_map.mp hp
  rw [child_optionsName, FileTree.names_iff] at hl
  exact FileTree.getLast?_of_walk (by decide) hl.2

theorem reads_findOptions (start : Path) : Reads (findOptions start) :=
  (Reads.expand start).bind fun q => (Reads.resolve q).bind fun _ => .ask _ _

theorem answer_findOptions (start : Path) (w : World) : answer (findOptions start) w =
    (answer (expand start) w).bind fun q => (answer (resolve q) w).bind fun dir =>
      (firstFile w.tree w.place.here (candidates dir)).mapError .access := by
  rw [findOptions, (Reads.expand start).answer_bind]
  refine congrArg _ (funext fun q => ?_)
  rw [(Reads.resolve q).answer_bind]
  refine congrArg _ (funext fun dir => ?_)
  rw [answer_ask]
  rfl

theorem found_of_findOptions {start file : Path} (h : answer (findOptions start) w = .ok (some file)) :
    ∃ dir, file ∈ candidates dir ∧ ∃ bytes, w.tree.look w.place.here file = .ok (some (.file bytes)) := by
  rw [answer_findOptions] at h
  obtain ⟨q, -, h⟩ := bind_eq_ok_iff.mp h
  obtain ⟨dir, -, h⟩ := bind_eq_ok_iff.mp h
  exact ⟨dir, firstFile_eq_some (mapError_eq_ok_iff.mp h)⟩

theorem answer_projectOptions (path : Path) (w : World) : answer (projectOptions path) w =
    (answer (findOptions path.parent) w).bind fun found => match found with
      | none => .ok []
      | some file => (answer (readText file) w).bind (ofRead w.place.limits.json file) := by
  rw [projectOptions, (reads_findOptions _).answer_bind]
  refine congrArg _ (funext fun found => ?_)
  cases found with
  | none => rfl
  | some file =>
    dsimp only
    rw [(Reads.readText file).answer_bind]
    refine congrArg _ (funext fun read => ?_)
    rcases read with (f | f) | text
    · rfl
    · rfl
    · dsimp only [ofRead]
      rw [pure_bind, Reads.answer_place_bind]
      cases optionsOf w.place.limits.json file text with
      | ok fields => rfl
      | error e => rfl

theorem answer_projectOptions_of_found {file : Path} {bytes : List UInt8} {cs : List Char}
    (h : answer (findOptions path.parent) w = .ok (some file))
    (hf : w.tree.look w.place.here file = .ok (some (.file bytes))) (hd : Utf8.decode bytes = .ok cs) :
    answer (projectOptions path) w =
      optionsOf w.place.limits.json file (String.ofList (FileTree.unifyLines cs)) := by
  rw [answer_projectOptions, h]
  dsimp only [Except.bind]
  rw [answer_readText_of_look hf, FileTree.readText_file hf, hd]
  rfl

theorem answer_format (path : Path) (content : String) (w : World) :
    answer (format none content path) w =
      (answer (projectOptions path) w).bind (layOut path content) := by
  rw [format, answer_bind]
  refine congrArg _ (funext fun own => ?_)
  dsimp only
  cases layOut path content own with
  | ok text => rfl
  | error e => rfl

theorem records_projectOptions (path : Path) : Records (projectOptions path) := by
  refine (reads_findOptions _).records.bind fun found => ?_
  cases found with
  | none => exact .pure _
  | some file =>
    refine (Reads.readText file).records.bind fun read => ?_
    extract_lets parsed
    have hparsed : ∀ text, Records (parsed text) := by
      intro text
      refine Reads.place.records.bind fun place => ?_
      cases optionsOf place.limits.json file text with
      | ok fields => exact (Records.report _).bind fun _ => .pure _
      | error e => exact .throw _
    rcases read with (f | f) | text
    · exact (Records.throw _).bind hparsed
    · exact (Records.throw _).bind hparsed
    · exact (Records.pure _).bind hparsed

theorem records_format (content : String) (path : Path) : Records (format none content path) := by
  refine (records_projectOptions path).bind fun own => ?_
  dsimp only
  cases layOut path content own with
  | ok text => exact .pure _
  | error e => exact .throw _

section
variable {P : Location → Prop} (h : w.tree.ChangedOnly P w'.tree) (hplace : w'.place = w.place)
  (hP : ∀ l, P l → l.getLast? ≠ some optionsName)
include h hplace hP

theorem answer_findOptions_changed (start : Path) :
    answer (findOptions start) w' = answer (findOptions start) w := by
  simp only [answer_findOptions, answer_expand, answer_resolve, hplace]
  refine congrArg _ (funext fun q => congrArg _ (funext fun dir => ?_))
  rw [firstFile_changed h fun p hp l hl hPl => hP l hPl (getLast?_of_candidate hp hl)]

/-- A module is laid out as before if no options file has changed. -/
theorem answer_format_changed :
    answer (format none content path) w' = answer (format none content path) w := by
  rw [answer_format, answer_format, answer_projectOptions, answer_projectOptions,
    answer_findOptions_changed h hplace hP]
  cases hfound : answer (findOptions path.parent) w with
  | error e => rfl
  | ok found =>
    cases found with
    | none => rfl
    | some file =>
      obtain ⟨start, hfile, bytes, hlook⟩ := found_of_findOptions hfound
      obtain ⟨l, hl⟩ := FileTree.names_of_look hlook
      have hPl : ¬ P l := fun hPl => hP l hPl (getLast?_of_candidate hfile hl)
      dsimp only [Except.bind]
      rw [answer_readText, answer_readText, hplace, FileTree.readText_changed h hl hPl]

end

/-- The failures to lay a module out that are not reported: a home that is not known, a NUL character
in the path of its directory, a name that is too long on the way up, an options file that is no text,
a number in it that has too many digits, lists and objects nested too deep in it, or an option whose
name is not free. -/
inductive Unreported (path : Path) (w : World) : Failure → Prop where
  | homeless (h : path.parent.expand w.place = none) : Unreported path w (.ofHomeless path.parent)
  | nul {q : Path} (h : path.parent.expand w.place = some q) (hq : q.hasNul = true) :
      Unreported path w .nul
  | unreachable {q p : Path} {before after : List Path} {f : FileError}
      (h : path.parent.expand w.place = some q) (hq : q.hasNul = false)
      (hall : candidates (q.resolve w.place.here) = before ++ p :: after)
      (hbefore : ∀ b ∈ before, w.tree.isFile w.place.here b = .ok false)
      (hp : w.tree.look w.place.here p = .error f) : Unreported path w (.access f)
  | encoding {file : Path} {bytes : List UInt8} {f : Utf8.Error}
      (h : answer (findOptions path.parent) w = .ok (some file))
      (hf : w.tree.look w.place.here file = .ok (some (.file bytes)))
      (hd : Utf8.decode bytes = .error f) : Unreported path w (.encoding f)
  | number {file : Path} {bytes : List UInt8} {cs : List Char} {f : Json.Error} {digits : Nat}
      (h : answer (findOptions path.parent) w = .ok (some file))
      (hf : w.tree.look w.place.here file = .ok (some (.file bytes)))
      (hd : Utf8.decode bytes = .ok cs)
      (hparse : Json.parse w.place.limits.json (String.ofList (FileTree.unifyLines cs)) = .error f)
      (hfault : f.fault = .tooLong digits) : Unreported path w (.setting (.tooLong digits))
  | nesting {file : Path} {bytes : List UInt8} {cs : List Char} {f : Json.Error} {kind : String}
      (h : answer (findOptions path.parent) w = .ok (some file))
      (hf : w.tree.look w.place.here file = .ok (some (.file bytes)))
      (hd : Utf8.decode bytes = .ok cs)
      (hparse : Json.parse w.place.limits.json (String.ofList (FileTree.unifyLines cs)) = .error f)
      (hfault : f.fault = .tooDeep kind) : Unreported path w (.tooDeep f.fault.message)
  | refused {own before after : List (String × Json)} {f : String × Json} {r : Script.Refusal}
      (h : answer (projectOptions path) w = .ok own) (hall : settings own = before ++ f :: after)
      (hbefore : ∀ b ∈ before, ∀ r,
        ¬ Script.Options.Refused (Script.Options.settingName b.1) b.2 r)
      (hr : Script.Options.Refused (Script.Options.settingName f.1) f.2 r) :
      Unreported path w (.refused r)

theorem answer_findOptions_eq_error {start : Path} : answer (findOptions start) w = .error e ↔
    start.expand w.place = none ∧ .ofHomeless start = e ∨ ∃ q, start.expand w.place = some q ∧
      (q.hasNul = true ∧ .nul = e ∨ q.hasNul = false ∧ ∃ f,
        firstFile w.tree w.place.here (candidates (q.resolve w.place.here)) = .error f ∧
          .access f = e) := by
  rw [answer_findOptions, answer_expand]
  cases start.expand w.place with
  | none => simp [Except.bind]
  | some q =>
    simp only [Option.elim, Except.bind, answer_resolve, reduceCtorEq, false_and,
      Option.some.injEq, false_or, exists_eq_left']
    cases hq : q.hasNul with
    | true => simp
    | false => simp [mapError_eq_error_iff]

/-- Of what can be wrong with the text of an options file, numbers that are too long and nesting that is
too deep are not reported. -/
theorem optionsOf_unreported {room : Nat} (file : Path) {text : String} :
    optionsOf room file text = .error e ∧ e.isReported = false ↔ ∃ f, Json.parse room text = .error f ∧
      ((∃ digits, f.fault = .tooLong digits ∧ e = .setting (.tooLong digits)) ∨
        ∃ kind, f.fault = .tooDeep kind ∧ e = .tooDeep f.fault.message) := by
  rw [optionsOf]
  cases Json.parse room text with
  | ok v => cases v <;> simp <;> rintro rfl <;> rfl
  | error f =>
    simp only [Except.error.injEq, exists_eq_left']
    cases hf : f.fault with
    | tooLong digits =>
      simp only [Except.error.injEq, Json.Fault.tooLong.injEq, exists_eq_left', reduceCtorEq,
        false_and, exists_false, or_false]
      exact ⟨fun h => h.1.symm, fun h => ⟨h.symm, h ▸ rfl⟩⟩
    | tooDeep kind =>
      simp only [Except.error.injEq, Json.Fault.tooDeep.injEq, exists_eq_left', reduceCtorEq,
        false_and, exists_false, false_or]
      exact ⟨fun h => h.1.symm, fun h => ⟨h.symm, h ▸ rfl⟩⟩
    | _ =>
      simp only [Except.error.injEq, reduceCtorEq, false_and, exists_false, or_self, iff_false,
        not_and]
      rintro rfl
      exact Bool.noConfusion

theorem layOut_unreported {own : List (String × Json)} :
    layOut path content own = .error e ∧ e.isReported = false ↔
      ∃ r, Script.Options.assigned (settings own) = .error r ∧ .refused r = e := by
  rw [layOut]
  cases Script.Options.assigned (settings own) with
  | error r =>
    simp only [Except.error.injEq, exists_eq_left']
    exact ⟨fun h => h.1, fun h => ⟨h, h ▸ rfl⟩⟩
  | ok all =>
    simp only [reduceCtorEq, false_and, exists_false, iff_false, not_and]
    intro h he
    split at h
    · cases h
    · cases h
      cases he

/-- These are all the failures to lay a module out that are not reported. -/
theorem answer_format_unreported :
    answer (format none content path) w = .error e ∧ e.isReported = false ↔ Unreported path w e := by
  rw [answer_format]
  constructor
  · rintro ⟨h, he⟩
    rcases bind_eq_error_iff.mp h with h | ⟨own, hown, h⟩
    · rw [answer_projectOptions] at h
      rcases bind_eq_error_iff.mp h with h | ⟨_ | file, hfound, h⟩
      · rcases answer_findOptions_eq_error.mp h with ⟨hq, rfl⟩ | ⟨q, hq, ⟨hnul, rfl⟩ | ⟨hnul, f, hf, rfl⟩⟩
        · exact .homeless hq
        · exact .nul hq hnul
        · obtain ⟨before, p, after, hall, hbefore, hp⟩ := firstFile_eq_error_iff.mp hf
          exact .unreachable hq hnul hall hbefore hp
      · cases h
      · obtain ⟨-, -, bytes, hlook⟩ := found_of_findOptions hfound
        dsimp only at h
        rw [answer_readText_of_look hlook, FileTree.readText_file hlook] at h
        cases hd : Utf8.decode bytes with
        | error f =>
          rw [hd] at h
          cases h
          exact .encoding hfound hlook hd
        | ok cs =>
          rw [hd] at h
          obtain ⟨f, hparse, ⟨digits, hfault, rfl⟩ | ⟨kind, hfault, rfl⟩⟩ :=
            (optionsOf_unreported file).mp ⟨h, he⟩
          · exact .number hfound hlook hd hparse hfault
          · exact .nesting hfound hlook hd hparse hfault
    · obtain ⟨r, hr, rfl⟩ := layOut_unreported.mp ⟨h, he⟩
      obtain ⟨before, f, after, hall, hbefore, hf⟩ := Script.Options.assigned_eq_error_iff.mp hr
      exact .refused hown hall hbefore hf
  · rintro (⟨hq⟩ | ⟨hq, hnul⟩ | ⟨hq, hnul, hall, hbefore, hp⟩ | ⟨hfound, hlook, hd⟩ |
      ⟨hfound, hlook, hd, hparse, hfault⟩ | ⟨hfound, hlook, hd, hparse, hfault⟩ |
      ⟨hown, hall, hbefore, hf⟩)
    · rw [answer_projectOptions, answer_findOptions_eq_error.mpr (.inl ⟨hq, rfl⟩)]
      exact ⟨rfl, Failure.isReported_ofHomeless _⟩
    · rw [answer_projectOptions, answer_findOptions_eq_error.mpr (.inr ⟨_, hq, .inl ⟨hnul, rfl⟩⟩)]
      exact ⟨rfl, rfl⟩
    · have hf := firstFile_eq_error_iff.mpr ⟨_, _, _, hall, hbefore, hp⟩
      rw [answer_projectOptions, answer_findOptions_eq_error.mpr (.inr ⟨_, hq, .inr ⟨hnul, _, hf, rfl⟩⟩)]
      exact ⟨rfl, rfl⟩
    · rw [answer_projectOptions, hfound]
      dsimp only [Except.bind]
      rw [answer_readText_of_look hlook, FileTree.readText_file hlook, hd]
      exact ⟨rfl, rfl⟩
    · rw [answer_projectOptions_of_found hfound hlook hd]
      obtain ⟨hread, he⟩ := (optionsOf_unreported _).mpr ⟨_, hparse, .inl ⟨_, hfault, rfl⟩⟩
      rw [hread]
      exact ⟨rfl, he⟩
    · rw [answer_projectOptions_of_found hfound hlook hd]
      obtain ⟨hread, he⟩ := (optionsOf_unreported _).mpr ⟨_, hparse, .inr ⟨_, hfault, rfl⟩⟩
      rw [hread]
      exact ⟨rfl, he⟩
    · have hrefused := Script.Options.assigned_eq_error_iff.mpr ⟨_, _, _, hall, hbefore, hf⟩
      rw [hown]
      exact layOut_unreported.mpr ⟨_, hrefused, rfl⟩

def stored (path : Path) (bytes : List UInt8) : Log.Record :=
  Log.debug "writer" s!"Wrote {bytes.length} bytes to {path.text}"

theorem run_store_nul (hp : path.hasNul = true) (text : Text.Spelled) (w : World) :
    (store path text).run w = (.error .nul, w) := by
  rw [store, guardNul, if_pos hp]
  rfl

section
variable (hp : path.hasNul = false)
include hp

/-- Storing a text does it as a whole or leaves all as it is. -/
theorem run_store_text (text : String) (w : World) : (store path (.text text)).run w =
    match w.tree.write w.place.here path (Utf8.encode text.toList) with
    | .error f => (.error (.unwritable path.text f), w)
    | .ok tree => (.ok path, { w with tree }.record (stored path (Utf8.encode text.toList))) := by
  rw [store, guardNul, hp, if_neg Bool.false_ne_true, pure_bind, run_bind, run_get]
  dsimp only
  cases w.tree.write w.place.here path (Utf8.encode text.toList) with
  | error f => rfl
  | ok tree => rfl

theorem run_store_halved (codes : List Nat) (w : World) : (store path (.halved codes)).run w =
    match w.tree.write w.place.here path [] with
    | .error f => (.error (.unwritable path.text f), w)
    | .ok _ => (.error (.unencodable codes), w) := by
  rw [store, guardNul, hp, if_neg Bool.false_ne_true, pure_bind, run_bind, run_get]
  dsimp only
  cases w.tree.write w.place.here path [] with
  | error f => rfl
  | ok tree => rfl

end

/-- What can become of a text that is to be stored. Only one that is stored changes the world. -/
inductive Stored (path : Path) (text : Text.Spelled) (w : World) :
    Except Failure Path × World → Prop where
  | nul (hp : path.hasNul = true) : Stored path text w (.error .nul, w)
  | unwritable {f : FileError} (hp : path.hasNul = false) :
      Stored path text w (.error (.unwritable path.text f), w)
  | unencodable {codes : List Nat} {tree : FileTree} (hp : path.hasNul = false)
      (htext : text = .halved codes) (h : w.tree.write w.place.here path [] = .ok tree) :
      Stored path text w (.error (.unencodable codes), w)
  | whole {s : String} {tree : FileTree} (hp : path.hasNul = false) (htext : text = .text s)
      (h : w.tree.write w.place.here path (Utf8.encode s.toList) = .ok tree) :
      Stored path text w (.ok path, { w with tree }.record (stored path (Utf8.encode s.toList)))

theorem stored_store (path : Path) (text : Text.Spelled) (w : World) :
    Stored path text w ((store path text).run w) := by
  cases hp : path.hasNul with
  | true =>
    rw [run_store_nul hp]
    exact .nul hp
  | false =>
    cases text with
    | text s =>
      rw [run_store_text hp]
      split
      · exact .unwritable hp
      · exact .whole hp rfl ‹_›
    | halved codes =>
      rw [run_store_halved hp]
      split
      · exact .unwritable hp
      · exact .unencodable hp rfl ‹_›

/-- What cannot be stored leaves the world as it was. -/
theorem store_fails_or_writes (path : Path) (text : Text.Spelled) (w : World) :
    (∃ e, (store path text).run w = (.error e, w)) ∨ path.hasNul = false ∧ ∃ s tree, text = .text s ∧
      w.tree.write w.place.here path (Utf8.encode s.toList) = .ok tree := by
  have h := stored_store path text w
  generalize (store path text).run w = result at h ⊢
  cases h with
  | nul => exact .inl ⟨_, rfl⟩
  | unwritable => exact .inl ⟨_, rfl⟩
  | unencodable => exact .inl ⟨_, rfl⟩
  | whole hp htext h => exact .inr ⟨hp, _, _, htext, h⟩

theorem stored_of_store {spelled : Text.Spelled} {p : Path}
    (h : (store path spelled).run w = (.ok p, w')) : ∃ text tree, spelled = .text text ∧
      w.tree.write w.place.here path (Utf8.encode text.toList) = .ok tree ∧
      w' = { w with tree }.record (stored path (Utf8.encode text.toList)) := by
  have hstored := stored_store path spelled w
  rw [h] at hstored
  cases hstored with
  | whole hp htext hwrite => exact ⟨_, _, htext, hwrite, rfl⟩

end SchemaWrappers.Output
