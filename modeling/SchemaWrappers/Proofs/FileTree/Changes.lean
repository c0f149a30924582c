import Mathlib.Data.List.Basic
import SchemaWrappers.FileTree

/-! Changes of files: what paths name stays where it is, and what they do not name is untouched. -/
namespace SchemaWrappers.FileTree
variable {t t' t'' : FileTree} {P Q : Location → Prop} {here p : Path} {l : Location}

/-- Where a path leads in a tree, whether something is there or not. -/
def Names (t : FileTree) (here p : Path) (l : Location) : Prop := ∃ e, t.find here p = .ok (l, e)

/-- Only files at some places were made or changed. -/
structure ChangedOnly (P : Location → Prop) (t t' : FileTree) : Prop where
  directories : ∀ l, t'.get? l = some .directory ↔ t.get? l = some .directory
  others : ∀ l, ¬ P l → t'.get? l = t.get? l

namespace ChangedOnly

theorem refl (P : Location → Prop) (t : FileTree) : ChangedOnly P t t :=
  ⟨fun _ => .rfl, fun _ _ => rfl⟩

theorem trans (h : ChangedOnly P t t') (h' : ChangedOnly P t' t'') : ChangedOnly P t t'' :=
  ⟨fun l => (h'.directories l).trans (h.directories l),
    fun l hl => (h'.others l hl).trans (h.others l hl)⟩

theorem mono (h : ChangedOnly P t t') (hPQ : ∀ l, P l → Q l) : ChangedOnly Q t t' :=
  ⟨h.directories, fun l hl => h.others l fun hp => hl (hPQ l hp)⟩

end ChangedOnly

/-- A way that is broken off because something on it is absent or no directory. -/
def BrokenOff {α : Type} (x : Except FileFault α) : Prop :=
  x = .error .absent ∨ x = .error .notDirectory

theorem walk_cons (t : FileTree) (place : Location) (n : String) (ns : List String) :
    t.walk place (n :: ns) =
      if t.get? place = some .directory then
        if n = ".." then t.walk place.dropLast ns
        else if longestName < n.utf8ByteSize then .error .nameTooLong
        else t.walk (place ++ [n]) ns
      else if t.get? place = none then .error .absent else .error .notDirectory := by
  rw [walk]
  rcases t.get? place with _ | _ | _
  · rfl
  · simp
  · rfl

/-- A way goes on from where its first part leads. -/
theorem walk_append (t : FileTree) (place : Location) (ns ms : List String) :
    t.walk place (ns ++ ms) = (t.walk place ns).bind fun l => t.walk l ms := by
  induction ns generalizing place with
  | nil => rfl
  | cons n ns ih =>
    rw [List.cons_append, walk_cons, walk_cons]
    split
    · split
      · exact ih _
      · split
        · rfl
        · exact ih _
    · split
      · rfl
      · rfl

theorem walk_concat {place : Location} {ns : List String} {n : String}
    (h : t.walk place (ns ++ [n]) = .ok l) : ∃ l', t.walk place ns = .ok l' ∧
      t.get? l' = some .directory ∧ l = if n = ".." then l'.dropLast else l' ++ [n] := by
  rw [walk_append] at h
  cases hw : t.walk place ns with
  | error e =>
    rw [hw] at h
    cases h
  | ok l' =>
    rw [hw] at h
    dsimp only [Except.bind] at h
    rw [walk_cons] at h
    split at h
    · rename_i hd
      refine ⟨l', rfl, hd, ?_⟩
      split at h
      · rename_i hn
        rw [if_pos hn]
        exact (Except.ok.inj h).symm
      · rename_i hn
        rw [if_neg hn]
        split at h
        · cases h
        · exact (Except.ok.inj h).symm
    · split at h
      · cases h
      · cases h

theorem getLast?_of_walk {place : Location} {ns : List String} {n : String} (hn : n ≠ "..")
    (h : t.walk place (ns ++ [n]) = .ok l) : l.getLast? = some n := by
  obtain ⟨l', -, -, rfl⟩ := walk_concat h
  rw [if_neg hn, List.getLast?_concat]

theorem walk_changed (h : ChangedOnly P t t') (place : Location) (ns : List String) :
    t'.walk place ns = t.walk place ns ∨ BrokenOff (t'.walk place ns) ∧ BrokenOff (t.walk place ns) := by
  induction ns generalizing place with
  | nil => exact .inl rfl
  | cons n ns ih =>
    rw [walk_cons, walk_cons]
    by_cases hd : t.get? place = some .directory
    · rw [if_pos hd, if_pos ((h.directories place).mpr hd)]
      split
      · exact ih _
      · split
        · exact .inl rfl
        · exact ih _
    · rw [if_neg hd, if_neg fun hd' => hd ((h.directories place).mp hd')]
      refine .inr ⟨?_, ?_⟩
      · split
        · exact .inl rfl
        · exact .inr rfl
      · split
        · exact .inl rfl
        · exact .inr rfl

theorem walk_eq_ok_changed (h : ChangedOnly P t t') {place : Location} {ns : List String} :
    t'.walk place ns = .ok l ↔ t.walk place ns = .ok l := by
  rcases walk_changed h place ns with he | ⟨h' | h', he | he⟩
  · rw [he]
  · simp [h', he]
  · simp [h', he]
  · simp [h', he]
  · simp [h', he]

def start (here p : Path) : Location := if p.isAbsolute then [] else here.names

theorem find_eq (t : FileTree) (here p : Path) :
    t.find here p =
      if longestPath ≤ p.text.utf8ByteSize then .error .nameTooLong
      else (t.walk (start here p) p.names).map fun l => (l, t.get? l) := by
  rw [find, start]
  split
  · rfl
  · change (t.walk _ p.names).bind _ = _
    cases t.walk (if p.isAbsolute then [] else here.names) p.names with
    | error e => rfl
    | ok l => rfl

theorem names_iff : t.Names here p l ↔
    ¬ longestPath ≤ p.text.utf8ByteSize ∧ t.walk (start here p) p.names = .ok l := by
  rw [Names, find_eq]
  split
  · rename_i h
    simp [h]
  · rename_i h
    cases t.walk (start here p) p.names with
    | error e => simp [Except.map]
    | ok l' => simp [Except.map, h]

theorem names_changed (h : ChangedOnly P t t') : t'.Names here p l ↔ t.Names here p l := by
  rw [names_iff, names_iff, walk_eq_ok_changed h]

theorem Names.unique {l' : Location} (h : t.Names here p l) (h' : t.Names here p l') : l = l' := by
  obtain ⟨e, he⟩ := h
  obtain ⟨e', he'⟩ := h'
  rw [he] at he'
  exact congrArg Prod.fst (Except.ok.inj he')

theorem Names.find (h : t.Names here p l) : t.find here p = .ok (l, t.get? l) := by
  obtain ⟨hlong, hw⟩ := names_iff.mp h
  rw [find_eq, if_neg hlong, hw]
  rfl

/-- A path is found as before if what it names has not changed, or its way is broken off as before. -/
theorem find_changed (h : ChangedOnly P t t') (hp : ∀ l, t.Names here p l → ¬ P l) :
    t'.find here p = t.find here p ∨ BrokenOff (t'.find here p) ∧ BrokenOff (t.find here p) := by
  by_cases hn : ∃ l, t.Names here p l
  · obtain ⟨l, hn⟩ := hn
    rw [((names_changed h).mpr hn).find, hn.find, h.others l (hp l hn)]
    exact .inl rfl
  · rw [find_eq, find_eq]
    split
    · exact .inl rfl
    · rename_i hlong
      have hnone : ∀ l, t.walk (start here p) p.names ≠ .ok l :=
        fun l hw => hn ⟨l, names_iff.mpr ⟨hlong, hw⟩⟩
      rcases walk_changed h (start here p) p.names with he | ⟨h' | h', he | he⟩
      · rw [he]
        cases hw : t.walk (start here p) p.names with
        | error e => exact .inl rfl
        | ok l => exact absurd hw (hnone l)
      · rw [h', he]; exact .inl rfl
      · rw [h', he]; exact .inr ⟨.inl rfl, .inr rfl⟩
      · rw [h', he]; exact .inr ⟨.inr rfl, .inl rfl⟩
      · rw [h', he]; exact .inl rfl

theorem look_changed (h : ChangedOnly P t t') (hp : ∀ l, t.Names here p l → ¬ P l) :
    t'.look here p = t.look here p := by
  rw [look, look]
  split
  · rfl
  · rcases find_changed h hp with he | ⟨h' | h', he | he⟩
    · rw [he]
    · rw [h', he]
    · rw [h', he]
    · rw [h', he]
    · rw [h', he]

theorem isFile_changed (h : ChangedOnly P t t') (hp : ∀ l, t.Names here p l → ¬ P l) :
    t'.isFile here p = t.isFile here p := by
  rw [isFile, isFile, look_changed h hp]

/-- Whether a path names a directory does not depend on any file. -/
theorem isDirectory_changed (h : ChangedOnly P t t') : t'.isDirectory here p = t.isDirectory here p := by
  by_cases hn : ∃ l, t.Names here p l
  · obtain ⟨l, hn⟩ := hn
    have hd := h.directories l
    rw [isDirectory, isDirectory, look, look]
    split
    · rfl
    · rw [((names_changed h).mpr hn).find, hn.find]
      simp only [bind, Except.bind, pure, Except.pure]
      congr 1
      rw [Bool.eq_iff_iff, beq_iff_eq, beq_iff_eq, hd]
  · rw [isDirectory, isDirectory, look_changed h fun l hl => absurd ⟨l, hl⟩ hn]

theorem readText_changed (h : ChangedOnly P t t') (hn : t.Names here p l) (hl : ¬ P l) :
    t'.readText here p = t.readText here p := by
  rw [readText, readText, read, read, ((names_changed h).mpr hn).find, hn.find, h.others l hl]

theorem names_of_readText {s : String} (h : t.readText here p = .ok s) : ∃ l, t.Names here p l := by
  cases hf : t.find here p with
  | error e => simp [readText, read, hf, blame, bind, Except.bind, Except.mapError] at h
  | ok found => exact ⟨found.1, found.2, hf⟩

theorem look_eq_some {e : Entry} (h : t.look here p = .ok (some e)) :
    p.hasNul = false ∧ ∃ l, t.Names here p l ∧ t.get? l = some e := by
  rw [look] at h
  split at h
  · cases h
  · rename_i hp
    refine ⟨by simpa using hp, ?_⟩
    cases hf : t.find here p with
    | error f =>
      rw [hf] at h
      cases f <;> cases h
    | ok found =>
      have hn : t.Names here p found.1 := ⟨found.2, hf⟩
      refine ⟨found.1, hn, ?_⟩
      rw [hn.find] at h
      exact Except.ok.inj h

theorem names_of_look {e : Entry} (h : t.look here p = .ok (some e)) : ∃ l, t.Names here p l := by
  obtain ⟨-, l, hl, -⟩ := look_eq_some h
  exact ⟨l, hl⟩

theorem readText_file {bytes : List UInt8} (h : t.look here p = .ok (some (.file bytes))) :
    t.readText here p = ((Utf8.decode bytes).mapError .encoding).bind fun cs =>
      .ok (String.ofList (unifyLines cs)) := by
  obtain ⟨-, l, hl, hentry⟩ := look_eq_some h
  have hread : t.read here p = .ok bytes := by
    rw [read, hl.find, hentry]
    rfl
  rw [readText, hread]
  rfl

theorem isFile_eq_true :
    t.isFile here p = .ok true ↔ ∃ bytes, t.look here p = .ok (some (.file bytes)) := by
  rw [isFile]
  rcases t.look here p with e | _ | _ | bytes
  · simp [bind, Except.bind]
  · simp [bind, Except.bind, pure, Except.pure]
  · simp [bind, Except.bind, pure, Except.pure]
  · simp [bind, Except.bind, pure, Except.pure]

theorem isDirectory_eq_true :
    t.isDirectory here p = .ok true ↔ t.look here p = .ok (some .directory) := by
  rw [isDirectory]
  rcases t.look here p with e | _ | _ | bytes
  · simp [bind, Except.bind]
  · simp [bind, Except.bind, pure, Except.pure]
  · simp [bind, Except.bind, pure, Except.pure]
  · simp [bind, Except.bind, pure, Except.pure]

theorem isFile_eq_error {f : FileError} : t.isFile here p = .error f ↔ t.look here p = .error f := by
  rw [isFile]
  rcases t.look here p with e | _ | _ | bytes
  · simp [bind, Except.bind]
  · simp [bind, Except.bind, pure, Except.pure]
  · simp [bind, Except.bind, pure, Except.pure]
  · simp [bind, Except.bind, pure, Except.pure]

theorem lookup_filter_ne {entries : List (Location × Entry)} {l l' : Location} (h : l' ≠ l) :
    (entries.filter (·.1 != l)).lookup l' = entries.lookup l' := by
  induction entries with
  | nil => rfl
  | cons e entries ih =>
    obtain ⟨k, e⟩ := e
    by_cases hk : k = l
    · subst hk
      rw [List.filter_cons_of_neg (by simp), ih, List.lookup_cons, beq_eq_false_iff_ne.mpr h]
    · rw [List.filter_cons_of_pos (by simpa using hk), List.lookup_cons, List.lookup_cons, ih]

theorem get?_put_same (t : FileTree) {l : Location} (hl : l ≠ []) (e : Entry) :
    FileTree.get? (t.put l e) l = some e := by
  simp [get?, put, hl]

theorem get?_put_other (t : FileTree) {l l' : Location} (h : l' ≠ l) (e : Entry) :
    FileTree.get? (t.put l e) l' = t.get? l' := by
  rw [get?, get?, put, List.lookup_cons, beq_eq_false_iff_ne.mpr h, lookup_filter_ne h]

/-- What was put at a place before does not show once something else is put there. -/
theorem put_put (t : FileTree) (l : Location) (e e' : Entry) : (t.put l e).put l e' = t.put l e' := by
  simp [put, List.filter_filter]

theorem update_eq_ok {change : List UInt8 → List UInt8} (h : t.update here p change = .ok t') :
    ∃ l, t.Names here p l ∧ l ≠ [] ∧ t.get? l ≠ some .directory ∧ ∃ bytes,
      (t.get? l = none ∧ bytes = [] ∨ t.get? l = some (.file bytes)) ∧
        t' = t.put l (.file (change bytes)) := by
  cases hf : t.find here p with
  | error e => simp [update, hf, blame, bind, Except.bind, Except.mapError] at h
  | ok found =>
    obtain ⟨l, e⟩ := found
    have hn : t.Names here p l := ⟨e, hf⟩
    have he : e = t.get? l := congrArg Prod.snd (Except.ok.inj (hf.symm.trans hn.find))
    rw [update, hf] at h
    have hd : t.get? l ≠ some .directory := by
      intro hd
      rw [he, hd] at h
      cases h
    have hne : l ≠ [] := by
      rintro rfl
      exact hd rfl
    refine ⟨l, hn, hne, hd, ?_⟩
    rw [he] at h
    rcases hentry : t.get? l with _ | _ | bytes
    · rw [hentry] at h
      exact ⟨[], .inl ⟨rfl, rfl⟩, (Except.ok.inj h).symm⟩
    · exact absurd hentry hd
    · rw [hentry] at h
      exact ⟨bytes, .inr rfl, (Except.ok.inj h).symm⟩

theorem changed_put (e : List UInt8) (hl : l ≠ []) (hd : t.get? l ≠ some .directory) :
    ChangedOnly (· = l) t (t.put l (.file e)) := by
  refine ⟨fun l' => ?_, fun l' hl' => get?_put_other t hl' _⟩
  by_cases h : l' = l
  · subst h
    rw [get?_put_same t hl]
    simp [hd]
  · rw [get?_put_other t h]

theorem changed_update {change : List UInt8 → List UInt8} (h : t.update here p change = .ok t') :
    ChangedOnly (t.Names here p) t t' := by
  obtain ⟨l, hn, hl, hd, bytes, -, rfl⟩ := update_eq_ok h
  refine (changed_put _ hl hd).mono ?_
  rintro _ rfl
  exact hn

/-- What was written is found where it was written. -/
theorem look_write {bytes : List UInt8} (h : t.write here p bytes = .ok t') (hp : p.hasNul = false) :
    t'.look here p = .ok (some (.file bytes)) := by
  have hc := changed_update h
  obtain ⟨l, hn, hl, -, -, -, rfl⟩ := update_eq_ok h
  rw [look, hp, ((names_changed hc).mpr hn).find, get?_put_same t hl]
  rfl

/-- Writing the same once more changes nothing. -/
theorem write_write {bytes : List UInt8} (h : t.write here p bytes = .ok t') :
    t'.write here p bytes = .ok t' := by
  have hc := changed_update h
  obtain ⟨l, hn, hl, -, -, -, rfl⟩ := update_eq_ok h
  rw [write, update, ((names_changed hc).mpr hn).find, get?_put_same t hl]
  exact congrArg Except.ok (put_put t l _ _)

section
variable {bytes : List UInt8}

/-- The bytes of the file at a place; none if no file is there. -/
def bytesAt (t : FileTree) (l : Location) : List UInt8 :=
  match t.get? l with
  | some (.file bytes) => bytes
  | _ => []

theorem bytesAt_congr (h : t'.get? l = t.get? l) : t'.bytesAt l = t.bytesAt l := by
  rw [bytesAt, bytesAt, h]

/-- Bytes were put behind those of one file, which was made if it was absent. -/
structure Appended (t t' : FileTree) (l : Location) (bytes : List UInt8) : Prop where
  changed : ChangedOnly (· = l) t t'
  file : t'.get? l = some (.file (t.bytesAt l ++ bytes))

theorem append_of_names (hn : t.Names here p l) (hd : t.get? l ≠ some .directory) :
    ∃ t', t.append here p bytes = .ok t' ∧ Appended t t' l bytes := by
  have hne : l ≠ [] := by
    rintro rfl
    exact hd rfl
  have hfile : t.append here p bytes = .ok (t.put l (.file (t.bytesAt l ++ bytes))) := by
    rw [append, update, hn.find, bytesAt]
    rcases hentry : t.get? l with _ | _ | old
    · rfl
    · exact absurd hentry hd
    · rfl
  exact ⟨_, hfile, changed_put _ hne hd, get?_put_same t hne _⟩

theorem names_of_append (h : t.append here p bytes = .ok t') :
    ∃ l, t.Names here p l ∧ t.get? l ≠ some .directory := by
  obtain ⟨l, hn, -, hd, -⟩ := update_eq_ok h
  exact ⟨l, hn, hd⟩

theorem Appended.bytesAt (h : Appended t t' l bytes) (l' : Location) :
    t'.bytesAt l' = t.bytesAt l' ++ if l' = l then bytes else [] := by
  split
  · rename_i hl
    subst hl
    rw [FileTree.bytesAt, h.file]
  · rename_i hl
    rw [bytesAt_congr (h.changed.others l' hl), List.append_nil]

theorem Appended.present (h : Appended t t' l bytes) (l' : Location) :
    t'.get? l' ≠ none ↔ t.get? l' ≠ none ∨ l = l' := by
  by_cases hl : l' = l
  · subst hl
    simp [h.file]
  · rw [h.changed.others l' hl]
    simp [Ne.symm hl]

end
end SchemaWrappers.FileTree
