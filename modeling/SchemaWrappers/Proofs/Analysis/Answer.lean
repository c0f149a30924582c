import SchemaWrappers.Analysis
import SchemaWrappers.Proofs.Loading
import SchemaWrappers.Proofs.MethodTable.Partition
import SchemaWrappers.Proofs.Rendering

namespace SchemaWrappers.Analysis
open Run

def overloadsIn (s : Settings) (p : Program) : List Overload :=
  Surface.overloads (Surface.builders p s.builders)

def ofMethods (s : Settings) (p : Program) (methods : List Method) : Analysis where
  settings := s
  program := p
  builders := Surface.builders p s.builders
  vocabulary := (vocabularyOf s p (methodNames (overloadsIn s p))).1
  methods := methods

variable {reader : Program.Reader} {s : Settings} {w : World} {p : Program}

theorem answer_ofSettingsWith (h : answer (Program.loadWith reader s.rootFiles) w = .ok p) :
    answer (ofSettingsWith reader s) w =
      ((buildMethods (overloadsIn s p)).map (ofMethods s p)).mapError Failure.method := by
  rw [ofSettingsWith, answer_bind, h]
  dsimp only [Except.bind]
  refine answer_of_report_if (fun u => answer_of_reportAll (fun u => ?_) u) _
  rw [buildMethods, MethodTable.methods, overloadsIn]
  cases MethodTable.outcomes Text.fold (Surface.overloads (Surface.builders p s.builders)) with
  | error e => rfl
  | ok outcomes => exact answer_of_reportAll (fun _ => rfl) u

theorem answer_ofSettingsWith_of_error {e : Failure}
    (h : answer (Program.loadWith reader s.rootFiles) w = .error e) :
    answer (ofSettingsWith reader s) w = .error e := by
  rw [ofSettingsWith, answer_bind, h]
  rfl

/-- The failures to analyse that are not reported: those of loading, and a method without a name. -/
inductive Unreported (reader : Program.Reader) (s : Settings) (w : World) : Failure → Prop where
  | loading {e : Failure} (h : Program.Unreported reader s.rootFiles w e) : Unreported reader s w e
  | nameless {p : Program} {o : Overload} (hp : answer (Program.loadWith reader s.rootFiles) w = .ok p)
      (ho : o ∈ overloadsIn s p) (hname : o.name = "") : Unreported reader s w (.method .emptyName)

theorem settings_of_ofSettingsWith {a : Analysis} (h : answer (ofSettingsWith reader s) w = .ok a) :
    a.settings = s := by
  cases hp : answer (Program.loadWith reader s.rootFiles) w with
  | error e =>
    rw [answer_ofSettingsWith_of_error hp] at h
    cases h
  | ok p =>
    rw [answer_ofSettingsWith hp, mapError_eq_ok_iff, map_eq_ok_iff] at h
    obtain ⟨ms, -, rfl⟩ := h
    rfl

theorem answer_ofSettingsWith_changed {P : Location → Prop} {w' : World} {a : Analysis}
    (h : w.tree.ChangedOnly P w'.tree) (hplace : w'.place = w.place)
    (ha : answer (ofSettingsWith reader s) w = .ok a)
    (hroots : ∀ r ∈ s.rootFiles, ∀ q, answer (Program.normalised r) w = .ok q →
      ∀ l, w.tree.Names w.place.here q l → ¬ P l) :
    answer (ofSettingsWith reader s) w' = .ok a := by
  cases hp : answer (Program.loadWith reader s.rootFiles) w with
  | error e =>
    rw [answer_ofSettingsWith_of_error hp] at ha
    cases ha
  | ok p =>
    rw [answer_ofSettingsWith hp] at ha
    rw [answer_ofSettingsWith (Program.answer_loadWith_changed h hplace hp hroots), ha]

theorem records_ofSettingsWith (reader : Program.Reader) (s : Settings) :
    Records (ofSettingsWith reader s) := by
  refine (Program.records_loadWith reader s.rootFiles).bind fun p => ?_
  refine Records.report_if ((Records.reportAll _).bind fun _ => ?_)
  cases MethodTable.outcomes Text.fold (Surface.overloads (Surface.builders p s.builders)) with
  | error e => exact .throw _
  | ok outcomes => exact (Records.reportAll _).bind fun _ => .pure _

/-- If its template does not show what it records, a run as a whole renders as from the start. -/
theorem answer_rendered (hp : answer (Program.loadWith reader s.rootFiles) w = .ok p)
    (hlog : Rendering.LogApart w s.template) :
    answer (do (← ofSettingsWith reader s).render) w =
      ((answer (ofSettingsWith reader s) w).map render).bind fun x => answer x w := by
  obtain ⟨rs, hrs⟩ := records_ofSettingsWith reader s w
  rw [answer_bind, hrs, answer_ofSettingsWith hp]
  cases buildMethods (overloadsIn s p) with
  | error e => rfl
  | ok ms =>
    change answer (ofMethods s p ms).render _ = answer (ofMethods s p ms).render w
    have hrecorded := World.recorded_records w rs
    refine Rendering.answer_render_congr hrecorded.place fun q hq =>
      ⟨fun n _ => ?_, .inr hrecorded.chance⟩
    exact congrFun (congrArg Template.Shelf.text? (hlog q hq rs)) n

def collected (reader : Program.Reader) (s : Settings) (w : World) : Except Failure (List Overload) :=
  (answer (Program.loadWith reader s.rootFiles) w).map (overloadsIn s)

theorem collected_eq_ok {os : List Overload} (h : collected reader s w = .ok os) :
    ∃ p, answer (Program.loadWith reader s.rootFiles) w = .ok p ∧ overloadsIn s p = os := by
  unfold collected at h
  cases hp : answer (Program.loadWith reader s.rootFiles) w with
  | error e => rw [hp] at h; cases h
  | ok p => rw [hp] at h; exact ⟨p, rfl, Except.ok.inj h⟩

end SchemaWrappers.Analysis
