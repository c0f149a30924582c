import SchemaWrappers.Proofs.Output

/-! How laying a module out for its project ends: with the text, with a failure that tells that the
module cannot be written, or with one of a few others. -/
namespace SchemaWrappers.Output
open Run

variable {w : World} {path file : Path} {content : String} {e : Failure}

/-- The failures that tell that a module cannot be laid out or stored. -/
def ofWriter : Failure → Bool
  | .formatUnreadable .. | .formatUnnamed _ | .layout .. | .unwritable .. => true
  | _ => false

theorem ofWriter_of_optionsOf {room : Nat} {text : String} (h : optionsOf room file text = .error e) :
    ofWriter e = e.isReported := by
  rw [optionsOf] at h
  split at h
  · cases h
  · cases h
    rfl
  · split at h
    · cases h
      rfl
    · cases h
      rfl
    · cases h
      rfl

theorem ofWriter_of_layOut {own : List (String × Json)} (h : layOut path content own = .error e) :
    ofWriter e = e.isReported := by
  rw [layOut] at h
  split at h
  · cases h
    rfl
  · split at h
    · cases h
    · cases h
      rfl

theorem ofWriter_of_projectOptions (h : answer (projectOptions path) w = .error e) :
    ofWriter e = e.isReported := by
  rw [answer_projectOptions] at h
  rcases bind_eq_error_iff.mp h with h | ⟨_ | file, hfound, h⟩
  · rcases answer_findOptions_eq_error.mp h with ⟨-, rfl⟩ | ⟨q, -, ⟨-, rfl⟩ | ⟨-, f, -, rfl⟩⟩
    · rw [Failure.ofHomeless]
      split <;> rfl
    · rfl
    · rfl
  · cases h
  · obtain ⟨-, -, bytes, hlook⟩ := found_of_findOptions hfound
    dsimp only at h
    rw [answer_readText_of_look hlook] at h
    rcases hread : w.tree.readText w.place.here file with (f | f) | text
    · rw [hread] at h
      cases h
      rfl
    · rw [hread] at h
      cases h
      rfl
    · rw [hread] at h
      exact ofWriter_of_optionsOf h

/-- Of the failures to lay a module out, those that are reported are failures to write. -/
theorem ofWriter_of_format (h : answer (format none content path) w = .error e) :
    ofWriter e = e.isReported := by
  rw [answer_format] at h
  rcases bind_eq_error_iff.mp h with h | ⟨own, -, h⟩
  · exact ofWriter_of_projectOptions h
  · exact ofWriter_of_layOut h

/-- Laying a module out for its project gives a text or a failure to write, unless the way to the
options file cannot be gone, the file is no text, it nests too deep, a number in it has too many digits, or
an option has a name that is not free. These are all the other failures, whatever the file holds. -/
theorem format_ends_in_failure_to_write (path : Path) (content : String) (w : World) :
    (∀ e, answer (format none content path) w = .error e ∧ ofWriter e = false ↔ Unreported path w e) ∧
      (((∃ text, answer (format none content path) w = .ok text) ∨
          ∃ e, answer (format none content path) w = .error e ∧ ofWriter e = true) ↔
        ¬ ∃ e, Unreported path w e) := by
  have hother : ∀ e, answer (format none content path) w = .error e ∧ ofWriter e = false ↔
      Unreported path w e := by
    intro e
    have hunreported : answer (format none content path) w = .error e ∧ e.isReported = false ↔
        Unreported path w e := answer_format_unreported
    rw [← hunreported]
    refine and_congr_right fun h => ?_
    rw [ofWriter_of_format h]
  refine ⟨hother, ?_⟩
  cases hformat : answer (format none content path) w with
  | ok text =>
    refine iff_of_true (.inl ⟨text, rfl⟩) ?_
    rintro ⟨e, he⟩
    have := ((hother e).mpr he).1
    rw [hformat] at this
    cases this
  | error e =>
    have hthis : Unreported path w e ↔ ofWriter e = false := by
      rw [← hother e, hformat]
      exact ⟨fun h => h.2, fun h => ⟨rfl, h⟩⟩
    have honly : (∃ f, Unreported path w f) ↔ Unreported path w e := by
      refine ⟨fun ⟨f, hf⟩ => ?_, fun h => ⟨e, h⟩⟩
      have := ((hother f).mpr hf).1
      rw [hformat] at this
      cases this
      exact hf
    rw [honly, hthis]
    simp

def optionsDesk (bytes : List UInt8) : World where
  place := { here := ⟨.top, []⟩, home := ⟨.top, []⟩ }
  tree := ⟨[([optionsName], .file bytes)]⟩

/-- An options file that is no text ends laying out with a failure that is none to write. -/
theorem undecodable_options_escape :
    answer (format none "" (Path.ofText "/builder.js")) (optionsDesk [0xff]) =
        .error (.encoding ⟨0, [0xff], .badStart⟩) ∧
      ofWriter (.encoding ⟨0, [0xff], .badStart⟩) = false := by decide +kernel

end SchemaWrappers.Output
