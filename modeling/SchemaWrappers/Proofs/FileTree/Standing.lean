import SchemaWrappers.Proofs.FileTree.Changes
import SchemaWrappers.Proofs.Path

/-! Trees in which whatever is there stands in a directory: every way to it can be gone, if no name on it
is too long. -/
namespace SchemaWrappers.FileTree
variable {t : FileTree} {here p : Path} {place l : Location} {ns : List String} {n : String} {e : Entry}

/-- What is there stands in a directory, and its way has no names but those that something can have. -/
structure IsTree (t : FileTree) : Prop where
  parent : ∀ l n e, t.get? (l ++ [n]) = some e → t.get? l = some .directory
  named : ∀ l e, t.get? l = some e → ∀ n ∈ l, IsName n

theorem mem_entries (h : t.get? l = some e) : l = [] ∨ (l, e) ∈ t.entries := by
  rw [get?] at h
  split at h
  · rename_i hl
    exact .inl (by simpa using hl)
  · refine .inr ?_
    obtain ⟨entries⟩ := t
    dsimp only at h ⊢
    induction entries with
    | nil => cases h
    | cons x entries ih =>
      obtain ⟨k, e'⟩ := x
      rw [List.lookup_cons] at h
      split at h
      · rename_i hk
        obtain rfl := Option.some.inj h
        rw [eq_of_beq hk]
        exact List.mem_cons_self ..
      · exact List.mem_cons_of_mem _ (ih h)

/-- A tree can be checked entry by entry. -/
theorem isTree_of_entries (h : ∀ x ∈ t.entries, t.get? x.1.dropLast = some .directory ∧
    ∀ n ∈ x.1, IsName n) : t.IsTree where
  parent l n e he := by
    rcases mem_entries he with hl | hmem
    · simp at hl
    · simpa using (h _ hmem).1
  named l e he := by
    rcases mem_entries he with rfl | hmem
    · simp
    · exact (h _ hmem).2

namespace IsTree

theorem dropLast (ht : t.IsTree) (hl : t.get? l = some .directory) :
    t.get? l.dropLast = some .directory := by
  rcases List.eq_nil_or_concat l with rfl | ⟨l', n, rfl⟩
  · exact hl
  · rw [List.concat_eq_append] at hl ⊢
    rw [List.dropLast_concat]
    exact ht.parent l' n _ hl

/-- All that something stands below are directories. -/
theorem above (ht : t.IsTree) (he : t.get? (l ++ n :: ns) = some e) :
    t.get? l = some .directory := by
  induction ns generalizing l n with
  | nil => exact ht.parent l n e he
  | cons m ns ih =>
    have hstep : l ++ n :: m :: ns = (l ++ [n]) ++ m :: ns := by simp
    rw [hstep] at he
    exact ht.parent l n _ (ih he)

/-- A way to something leads there. -/
theorem walk (ht : t.IsTree) (he : t.get? (place ++ ns) = some e) :
    t.walk place ns = .ok (place ++ ns) ∨ t.walk place ns = .error .nameTooLong := by
  induction ns generalizing place with
  | nil => exact .inl (congrArg Except.ok (List.append_nil place).symm)
  | cons n ns ih =>
    have hn : n ≠ ".." := (ht.named _ e he n (by simp)).1
    rw [walk_cons, if_pos (ht.above he), if_neg hn]
    split
    · exact .inr rfl
    · have hstep : place ++ n :: ns = (place ++ [n]) ++ ns := by simp
      rw [hstep] at he ⊢
      exact ih he

end IsTree

/-- A way that can be gone leads to where its names lead. -/
theorem eq_follow_of_walk (h : t.walk place ns = .ok l) : l = Path.follow place ns := by
  induction ns generalizing place with
  | nil => exact (Except.ok.inj h).symm
  | cons n ns ih =>
    rw [walk_cons] at h
    split at h
    · rw [Path.follow_cons]
      split at h
      · rename_i hn
        rw [if_pos hn]
        exact ih h
      · rename_i hn
        rw [if_neg hn]
        split at h
        · cases h
        · exact ih h
    · split at h
      · cases h
      · cases h

/-- A normal path leads to where its names are, wherever it is seen from. -/
theorem eq_of_names_normal (hp : p.IsNormal) (h : t.Names here p l) : l = p.names := by
  obtain ⟨-, hw⟩ := names_iff.mp h
  rw [hp.eq_top] at hw
  rw [eq_follow_of_walk hw]
  exact Path.follow_of_forward fun n hn => (hp.name n hn).1

/-- A file that a path leads to stands in the directory that the path names without its last name. -/
theorem dropLast_of_names (ht : t.IsTree) (hhere : t.get? here.names = some .directory)
    (hn : t.Names here p l) (hd : t.get? l ≠ some .directory) :
    l.dropLast = (p.parent.resolve here).names := by
  have hstart : t.get? (start here p) = some .directory := by
    rw [start]
    split
    · rfl
    · exact hhere
  obtain ⟨-, hw⟩ := names_iff.mp hn
  obtain ⟨anchor, names⟩ := p
  rcases List.eq_nil_or_concat names with rfl | ⟨ns, n, rfl⟩
  · cases hw
    exact absurd hstart hd
  · rw [List.concat_eq_append] at hw
    obtain ⟨l', hw', hdir, rfl⟩ := walk_concat hw
    split at hd
    · exact absurd (ht.dropLast hdir) hd
    · rename_i hforward
      rw [if_neg hforward, List.dropLast_concat, eq_follow_of_walk hw', Path.resolve, Path.parent,
        List.concat_eq_append, List.dropLast_concat]
      rfl

theorem look_absolute (ht : t.IsTree) (hl : ∀ n ∈ l, IsName n) {found : Option Entry}
    (h : t.look here ⟨.top, l⟩ = .ok found) : found = t.get? l := by
  have hnul : Path.hasNul ⟨.top, l⟩ = false := by
    rw [Path.hasNul, List.any_eq_false]
    exact fun n hn => by simpa using (hl n hn).2
  have hfind : t.find here ⟨.top, l⟩ = if longestPath ≤ (Path.text ⟨.top, l⟩).utf8ByteSize then
      .error .nameTooLong else (t.walk [] l).map fun l => (l, t.get? l) := find_eq ..
  rw [look, hnul, if_neg Bool.false_ne_true, hfind] at h
  split_ifs at h
  cases hw : t.walk [] l with
  | ok l' =>
    obtain rfl : l' = l := by
      rw [eq_follow_of_walk hw, Path.follow_of_forward fun n hn => (hl n hn).1, List.nil_append]
    rw [hw] at h
    exact (Except.ok.inj h).symm
  | error f =>
    rw [hw] at h
    cases hentry : t.get? l with
    | none => cases f <;> cases h <;> rfl
    | some e =>
      -- The way to what is there can only be too long.
      have hway : t.walk [] l = .ok l ∨ t.walk [] l = .error .nameTooLong := ht.walk hentry
      rw [hw] at hway
      rcases hway with hway | hway
      · cases hway
      · cases hway
        cases h

theorem isFile_absolute (ht : t.IsTree) (hl : ∀ n ∈ l, IsName n) {found : Bool}
    (h : t.isFile here ⟨.top, l⟩ = .ok found) :
    found = true ↔ ∃ bytes, t.get? l = some (.file bytes) := by
  have hlook : ∃ e, t.look here ⟨.top, l⟩ = .ok e := by
    cases hlook : t.look here ⟨.top, l⟩ with
    | error e =>
      rw [isFile_eq_error.mpr hlook] at h
      cases h
    | ok e => exact ⟨e, rfl⟩
  obtain ⟨e, hlook⟩ := hlook
  have htrue : found = true ↔ t.isFile here ⟨.top, l⟩ = .ok true := by simp [h]
  rw [htrue, isFile_eq_true, hlook, look_absolute ht hl hlook]
  simp

end SchemaWrappers.FileTree
