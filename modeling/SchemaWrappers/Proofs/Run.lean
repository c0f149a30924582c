import SchemaWrappers.Proofs.Except
import SchemaWrappers.Proofs.FileTree.Changes
import SchemaWrappers.World

namespace SchemaWrappers.Run
variable {α β : Type}

theorem run_get (w : World) : (get : Run World).run w = (.ok w, w) := rfl

theorem run_modify (f : World → World) (w : World) :
    (modify f : Run Unit).run w = (.ok (), f w) := rfl

theorem run_bind (x : Run α) (f : α → Run β) (w : World) :
    (x >>= f).run w = match x.run w with
      | (.ok a, w') => (f a).run w'
      | (.error e, w') => (.error e, w') := by
  change (match x.run w with | (r, w') => ExceptT.bindCont f r w') = _
  rcases x.run w with ⟨_ | _, w'⟩
  · rfl
  · rfl

/-- What a part of a run answers in a world. -/
def answer (x : Run α) (w : World) : Except Failure α := (x.run w).1

/-- A part that changes nothing. -/
def Reads (x : Run α) : Prop := ∀ w, (x.run w).2 = w

/-- A part that does no more than make records. -/
def Records (x : Run α) : Prop := ∀ w, ∃ rs : List Log.Record, (x.run w).2 = rs.foldl World.record w

theorem answer_bind (x : Run α) (f : α → Run β) (w : World) :
    answer (x >>= f) w = (answer x w).bind fun a => answer (f a) (x.run w).2 := by
  rw [answer, run_bind, answer]
  rcases x.run w with ⟨_ | _, w'⟩
  · rfl
  · rfl

/-- What a part of a run answers to a path put in full. -/
theorem answer_expand (p : Path) (w : World) :
    answer (expand p) w = (p.expand w.place).elim (.error (.ofHomeless p)) .ok := by
  have hplace : answer place w = .ok w.place := rfl
  rw [expand, answer_bind, hplace]
  dsimp only [Except.bind]
  cases p.expand w.place with
  | none => rfl
  | some q => rfl

theorem answer_guardNul (p : Path) (w : World) :
    answer (guardNul p) w = if p.hasNul then .error .nul else .ok () := by
  rw [guardNul]
  split
  · rfl
  · rfl

theorem answer_resolve (p : Path) (w : World) :
    answer (resolve p) w = if p.hasNul then .error .nul else .ok (p.resolve w.place.here) := by
  rw [resolve, answer_bind, answer_guardNul]
  cases hp : p.hasNul with
  | true => rfl
  | false =>
    have hw : ((guardNul p).run w).2 = w := by rw [guardNul, hp]; rfl
    rw [hw]
    rfl

theorem answer_readText (p : Path) (w : World) :
    answer (readText p) w = if p.hasNul then .error .nul else .ok (w.tree.readText w.place.here p) := by
  rw [readText, answer_bind, answer_guardNul]
  cases hp : p.hasNul with
  | true => rfl
  | false =>
    have hw : ((guardNul p).run w).2 = w := by rw [guardNul, hp]; rfl
    rw [hw]
    rfl

theorem answer_readText_of_look {p : Path} {w : World} {e : Entry}
    (h : w.tree.look w.place.here p = .ok (some e)) :
    answer (readText p) w = .ok (w.tree.readText w.place.here p) := by
  rw [answer_readText, (FileTree.look_eq_some h).1]
  rfl

theorem answer_ask {ε : Type} (f : FileTree → Path → Except ε α) (fail : ε → Failure) (w : World) :
    answer (ask f fail) w = (f w.tree w.place.here).mapError fail := by
  have hget : answer get w = .ok w := rfl
  rw [ask, answer_bind, hget]
  dsimp only [Except.bind]
  rw [run_get]
  dsimp only
  cases f w.tree w.place.here with
  | error e => rfl
  | ok a => rfl

namespace Reads

theorem pure (a : α) : Reads (Pure.pure a : Run α) := fun _ => rfl

theorem throw (e : Failure) : Reads (MonadExcept.throw e : Run α) := fun _ => rfl

theorem get : Reads (MonadState.get : Run World) := fun _ => rfl

theorem bind {x : Run α} {f : α → Run β} (hx : Reads x) (hf : ∀ a, Reads (f a)) :
    Reads (x >>= f) := by
  intro w
  have hw := hx w
  rw [run_bind]
  rcases hr : x.run w with ⟨_ | a, w'⟩
  · rwa [hr] at hw
  · rw [hr] at hw
    exact (hf a w').trans hw

theorem mapM {f : α → Run β} (hf : ∀ a, Reads (f a)) (as : List α) : Reads (as.mapM f) := by
  induction as with
  | nil => exact pure []
  | cons a as ih =>
    rw [List.mapM_cons]
    exact (hf a).bind fun b => ih.bind fun bs => pure (b :: bs)

theorem answer_bind {x : Run α} (hx : Reads x) (f : α → Run β) (w : World) :
    answer (x >>= f) w = (answer x w).bind fun a => answer (f a) w := by
  rw [Run.answer_bind, hx]

theorem answer_mapM {f : α → Run β} (hf : ∀ a, Reads (f a)) (as : List α) (w : World) :
    answer (as.mapM f) w = as.mapM fun a => answer (f a) w := by
  induction as with
  | nil => rfl
  | cons a as ih =>
    rw [List.mapM_cons, List.mapM_cons, (hf a).answer_bind]
    refine congrArg _ (funext fun b => ?_)
    rw [(mapM hf as).answer_bind, ih]
    rfl

theorem place : Reads Run.place := get.bind fun w => pure w.place

theorem answer_place_bind {β : Type} (f : Place → Run β) (w : World) :
    answer (Run.place >>= f) w = answer (f w.place) w := place.answer_bind f w

theorem guardNul (p : Path) : Reads (Run.guardNul p) := by
  unfold Run.guardNul
  split
  · exact throw .nul
  · exact pure ()

theorem readText (p : Path) : Reads (Run.readText p) :=
  (guardNul p).bind fun _ => get.bind fun w => pure (w.tree.readText w.place.here p)

theorem expand (p : Path) : Reads (Run.expand p) := by
  refine place.bind fun place => ?_
  cases p.expand place with
  | none => exact throw (.ofHomeless p)
  | some q => exact pure q

theorem resolve (p : Path) : Reads (Run.resolve p) :=
  (guardNul p).bind fun _ => place.bind fun place => pure (p.resolve place.here)

theorem ask {ε : Type} (f : FileTree → Path → Except ε α) (fail : ε → Failure) :
    Reads (Run.ask f fail) := by
  refine get.bind fun w => ?_
  cases f w.tree w.place.here with
  | error e => exact throw (fail e)
  | ok a => exact pure a

theorem records {x : Run α} (hx : Reads x) : Records x := fun w => ⟨[], hx w⟩

end Reads

namespace Records

theorem pure (a : α) : Records (Pure.pure a : Run α) := (Reads.pure a).records

theorem throw (e : Failure) : Records (MonadExcept.throw e : Run α) := (Reads.throw e).records

theorem report (r : Log.Record) : Records (Run.report r) := fun _ => ⟨[r], rfl⟩

theorem bind {x : Run α} {f : α → Run β} (hx : Records x) (hf : ∀ a, Records (f a)) :
    Records (x >>= f) := by
  intro w
  obtain ⟨rs, hw⟩ := hx w
  rw [run_bind]
  rcases hr : x.run w with ⟨_ | a, w'⟩
  · exact ⟨rs, by rw [← hw, hr]⟩
  · obtain ⟨rs', hw'⟩ := hf a w'
    rw [hr] at hw
    exact ⟨rs ++ rs', by rw [List.foldl_append, ← hw, hw']⟩

theorem reportAll (rs : List Log.Record) : Records (Run.reportAll rs) := by
  induction rs with
  | nil => exact pure ()
  | cons r rs ih => exact (report r).bind fun _ => ih

theorem report_if {c : Prop} [Decidable c] {r : Log.Record} {x : Run α} (hx : Records x) :
    Records (if c then do Run.report r; x else x) := by
  split
  · exact (report r).bind fun _ => hx
  · exact hx

end Records

theorem answer_of_report_if {c : Prop} [Decidable c] {r : Log.Record} {x : Run α}
    {a : Except Failure α} (h : ∀ w, answer x w = a) (w : World) :
    answer (if c then do report r; x else x) w = a := by
  split
  · exact h (w.record r)
  · exact h w

theorem answer_of_reportAll {rs : List Log.Record} {x : Run α} {a : Except Failure α}
    (h : ∀ w, answer x w = a) (w : World) : answer (do reportAll rs; x) w = a := by
  induction rs generalizing w with
  | nil => exact h w
  | cons r rs ih => exact ih (w.record r)

end SchemaWrappers.Run
