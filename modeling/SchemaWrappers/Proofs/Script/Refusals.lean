import SchemaWrappers.Proofs.Except
import SchemaWrappers.Script.Options

namespace SchemaWrappers.Script.Options

/-- A name that cannot be set to a value, and why. -/
inductive Refused : String → Json → Refusal → Prop where
  | ofClass (v : Json) : Refused "__class__" v (.notClass (kindName v))
  | ofMark (v : Json) : Refused "__weakref__" v .fixed
  | ofSettings {v : Json} (h : ∀ fields, v ≠ .object fields) :
      Refused "__dict__" v (.notSettings (kindName v))

/-- Whether a name can be set does not depend on what is set already. -/
theorem assign_eq_error_iff {all : List (String × Json)} {name : String} {v : Json} {r : Refusal} :
    assign all name v = .error r ↔ Refused name v r := by
  constructor
  · intro h
    unfold assign at h
    split at h
    · rename_i hname
      obtain rfl := beq_iff_eq.mp hname
      cases h
      exact .ofClass v
    · split at h
      · rename_i hname
        obtain rfl := beq_iff_eq.mp hname
        cases h
        exact .ofMark v
      · split at h
        · rename_i hname
          obtain rfl := beq_iff_eq.mp hname
          split at h
          · cases h
          · rename_i hv
            cases h
            exact .ofSettings hv
        · cases h
  · intro h
    cases h with
    | ofClass v => rfl
    | ofMark v => rfl
    | ofSettings hv =>
      cases v with
      | object fields => exact absurd rfl (hv fields)
      | _ => rfl

/-- Setting names one by one ends at the first that is not free. -/
theorem assigned_eq_error_iff {fields : List (String × Json)} {r : Refusal} :
    assigned fields = .error r ↔ ∃ before f after, fields = before ++ f :: after ∧
      (∀ b ∈ before, ∀ r, ¬ Refused (settingName b.1) b.2 r) ∧ Refused (settingName f.1) f.2 r := by
  have hstep : ∀ (all : List (String × Json)) (f : String × Json) r,
      assign all (settingName f.1) f.2 = .error r ↔ Refused (settingName f.1) f.2 r :=
    fun _ _ _ => assign_eq_error_iff
  rw [assigned, foldlM_eq_error_iff hstep]

end SchemaWrappers.Script.Options
