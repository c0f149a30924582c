import SchemaWrappers.Proofs.FileTree.Changes
import SchemaWrappers.Proofs.Run

/-! What records do to the world: they show on the console, and in the one file that takes them. -/
namespace SchemaWrappers
variable {w w' w'' : World}

namespace World

/-- The place of the file that takes records, if one does. -/
def LogPlace (w : World) (l : Location) : Prop :=
  ∃ p, w.sinks.bind (·.file) = some p ∧ w.tree.Names w.place.here p l

theorem logPlace_changed {P : Location → Prop} (hplace : w'.place = w.place)
    (hsinks : w'.sinks = w.sinks) (htree : w.tree.ChangedOnly P w'.tree) (l : Location) :
    w'.LogPlace l ↔ w.LogPlace l := by
  rw [LogPlace, LogPlace, hplace, hsinks]
  simp only [FileTree.names_changed htree]

/-- What is left as it was when records are made. -/
structure Recorded (w w' : World) : Prop where
  place : w'.place = w.place
  chance : w'.chance = w.chance
  sinks : w'.sinks = w.sinks
  printed : w'.printed = w.printed
  tree : w.tree.ChangedOnly w.LogPlace w'.tree

namespace Recorded

theorem refl (w : World) : Recorded w w := ⟨rfl, rfl, rfl, rfl, .refl _ _⟩

theorem logPlace (h : Recorded w w') (l : Location) : w'.LogPlace l ↔ w.LogPlace l :=
  logPlace_changed h.place h.sinks h.tree l

theorem trans (h : Recorded w w') (h' : Recorded w' w'') : Recorded w w'' where
  place := h'.place.trans h.place
  chance := h'.chance.trans h.chance
  sinks := h'.sinks.trans h.sinks
  printed := h'.printed.trans h.printed
  tree := h.tree.trans (h'.tree.mono fun l => (h.logPlace l).mp)

end Recorded

private theorem changed_appendText (t : FileTree) (here p : Path) (s : String) :
    t.ChangedOnly (t.Names here p) (appendText t here p s) := by
  rw [appendText]
  split
  · rename_i t' h
    exact FileTree.changed_update h
  · exact .refl _ _

theorem recorded_record (w : World) (r : Log.Record) : Recorded w (w.record r) := by
  obtain ⟨place, tree, stamp, sinks, printed, console, records, chance⟩ := w
  rcases sinks with _ | ⟨threshold, level, _ | p⟩
  · exact ⟨rfl, rfl, rfl, rfl, .refl _ _⟩
  · simp only [record]
    split
    · exact ⟨rfl, rfl, rfl, rfl, .refl _ _⟩
    · exact ⟨rfl, rfl, rfl, rfl, .refl _ _⟩
  · have htree : FileTree.ChangedOnly (LogPlace ⟨place, tree, stamp, some ⟨threshold, level, some p⟩,
        printed, console, records, chance⟩) tree (appendText tree place.here p (r.fileLine stamp)) :=
      (changed_appendText tree place.here p _).mono fun l hl => ⟨p, rfl, hl⟩
    simp only [record]
    split
    · split
      · exact ⟨rfl, rfl, rfl, rfl, htree⟩
      · exact ⟨rfl, rfl, rfl, rfl, htree⟩
    · split
      · exact ⟨rfl, rfl, rfl, rfl, .refl _ _⟩
      · exact ⟨rfl, rfl, rfl, rfl, .refl _ _⟩

theorem recorded_records (w : World) (rs : List Log.Record) : Recorded w (rs.foldl record w) := by
  induction rs generalizing w with
  | nil => exact .refl w
  | cons r rs ih => exact (recorded_record w r).trans (ih (w.record r))

theorem changed_by_record {P : Location → Prop} {tree : FileTree} (h : w.tree.ChangedOnly P tree)
    (r : Log.Record) : tree.ChangedOnly w.LogPlace (record { w with tree } r).tree := by
  have hlog : ∀ l, LogPlace { w with tree } l ↔ w.LogPlace l := logPlace_changed rfl rfl h
  exact (recorded_record { w with tree } r).tree.mono fun l hl => (hlog l).mp hl

theorem tree_record (h : w.sinks.bind (·.file) = none) (r : Log.Record) :
    (w.record r).tree = w.tree := by
  obtain ⟨place, tree, stamp, sinks, printed, console, records, chance⟩ := w
  rcases sinks with _ | ⟨threshold, level, file⟩
  · rfl
  · obtain rfl : file = none := h
    simp only [record]
    split
    · rfl
    · rfl

theorem tree_records (h : w.sinks.bind (·.file) = none) (rs : List Log.Record) :
    (rs.foldl record w).tree = w.tree := by
  induction rs generalizing w with
  | nil => rfl
  | cons r rs ih =>
    have hr : (w.record r).sinks.bind (·.file) = none := by rw [(recorded_record w r).sinks, h]
    exact (ih hr).trans (tree_record h r)

end World

namespace Run
variable {α : Type} {x : Run α}

/-- Without a file the console alone is set up. -/
theorem run_configureLog_none (verbose quiet : Bool) (w : World) :
    (configureLog verbose quiet none).run w =
      (.ok (), { w with sinks := some (.ofFlags verbose quiet false) }) := rfl

/-- A file that cannot be opened leaves the console alone. -/
theorem run_configureLog_some (verbose quiet : Bool) (p : Path) (w : World) :
    (configureLog verbose quiet (some p)).run w =
      if p.hasNul then (.error .nul, { w with sinks := some (.ofFlags verbose quiet true) })
      else match w.tree.append w.place.here (w.absolute p) [] with
        | .error e => (.error (.access e), { w with sinks := some (.ofFlags verbose quiet true) })
        | .ok tree => (.ok (), { w with
            tree, sinks := some { Log.Sinks.ofFlags verbose quiet true with file := some (w.absolute p) } }) := by
  rw [configureLog]
  cases hp : p.hasNul with
  | true =>
    have hguard : guardNul p = throw .nul := by rw [guardNul, hp]; rfl
    dsimp only
    rw [hguard]
    rfl
  | false =>
    have hguard : guardNul p = pure () := by rw [guardNul, hp]; rfl
    dsimp only
    rw [hguard, pure_bind, run_bind, run_modify]
    dsimp only
    rw [run_bind, run_get, if_neg Bool.false_ne_true]
    dsimp only [World.absolute]
    generalize w.tree.append w.place.here _ [] = made
    cases made with
    | error e => rfl
    | ok tree => rfl

theorem Records.recorded (hx : Records x) (w : World) : w.Recorded (x.run w).2 := by
  obtain ⟨rs, hrs⟩ := hx w
  rw [hrs]
  exact World.recorded_records w rs

theorem Records.tree_eq (hx : Records x) (h : w.sinks.bind (·.file) = none) :
    (x.run w).2.tree = w.tree := by
  obtain ⟨rs, hrs⟩ := hx w
  rw [hrs]
  exact World.tree_records h rs

end Run
end SchemaWrappers
