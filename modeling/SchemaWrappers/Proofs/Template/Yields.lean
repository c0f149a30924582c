import SchemaWrappers.Template.Engine

/-! What steps of filling in a template come to, and the store that they leave, where they ask for no
other template. -/
namespace SchemaWrappers.Template

theorem Inquiry.bind_done {α : Type} (i : Inquiry α) : i.bind .done = i := by
  induction i with
  | done a => rfl
  | ask name next ih => exact congrArg (Inquiry.ask name) (funext ih)
  | draw below next ih => exact congrArg (Inquiry.draw below) (funext ih)

theorem Inquiry.bind_assoc {α β γ : Type} (i : Inquiry α) (f : α → Inquiry β) (h : β → Inquiry γ) :
    (i.bind f).bind h = i.bind fun a => (f a).bind h := by
  induction i with
  | done a => rfl
  | ask name next ih => exact congrArg (Inquiry.ask name) (funext ih)
  | draw below next ih => exact congrArg (Inquiry.draw below) (funext ih)

instance : LawfulMonad Inquiry :=
  LawfulMonad.mk' Inquiry Inquiry.bind_done (fun _ _ => rfl) Inquiry.bind_assoc

theorem setIfInBounds_push_size {α : Type} (as : Array α) (a b : α) :
    (as.push a).setIfInBounds as.size b = as.push b := by
  refine Array.ext' ?_
  simp [Array.toList_setIfInBounds, List.set_append_right]

theorem getElem?_push_of_some {α : Type} {as : Array α} {i : Nat} {a : α} (h : as[i]? = some a)
    (b : α) : (as.push b)[i]? = some a := by
  obtain ⟨hi, rfl⟩ := Array.getElem?_eq_some_iff.mp h
  exact Array.getElem?_push_lt hi

/-- A step that starts with a store gives a value and leaves another store. -/
def Yields {α : Type} (x : Eval α) (g : Engine) (s : Store) (a : α) (s' : Store) : Prop :=
  x g s = .done (.ok a, s')

namespace Yields
variable {α β : Type} {x : Eval α} {f : α → Eval β} {g : Engine} {s s' s'' : Store} {a : α} {b : β}

theorem bind {t : Store} (hx : Yields x g s a t) (hf : Yields (f a) g t b s') :
    Yields (x >>= f) g s b s' := by
  change Inquiry.bind (x g s) _ = _
  rw [show x g s = _ from hx]
  exact hf

theorem pure (a : α) : Yields (Pure.pure a) g s a s := rfl

theorem engine : Yields read g s g s := rfl

theorem get : Yields MonadState.get g s s s := rfl

theorem modified (f : Store → Store) : Yields (modify f) g s () (f s) := rfl

theorem tryCatch (hx : Yields x g s a s') (h : Fault → Eval α) :
    Yields (MonadExcept.tryCatch x h) g s a s' := by
  change Inquiry.bind (x g s) _ = _
  rw [show x g s = _ from hx]
  rfl

theorem mapM {h : α → Eval β} {k : α → β} {as : List α} (hk : ∀ a ∈ as, Yields (h a) g s (k a) s) :
    Yields (as.mapM h) g s (as.map k) s := by
  induction as with
  | nil => exact .pure []
  | cons a as ih =>
    rw [List.mapM_cons]
    exact (hk a (List.mem_cons_self ..)).bind
      ((ih fun b hb => hk b (List.mem_cons_of_mem _ hb)).bind (.pure _))

theorem forM_cons {h : α → Eval Unit} {as : List α} (ha : Yields (h a) g s () s')
    (has : Yields (as.forM h) g s' () s'') : Yields ((a :: as).forM h) g s () s'' := ha.bind has

theorem forM_append {h : α → Eval Unit} {as bs : List α} (has : Yields (as.forM h) g s () s')
    (hbs : Yields (bs.forM h) g s' () s'') : Yields ((as ++ bs).forM h) g s () s'' := by
  rw [List.forM_eq_forM, List.forM_append]
  exact Yields.bind has hbs

section
variable {σ : Type} {c c' : σ}

theorem run_bind {x : StateT σ Eval α} {f : α → StateT σ Eval β} {r : β × σ}
    (hx : Yields (x.run c) g s (a, c') s') (hf : Yields ((f a).run c') g s' r s'') :
    Yields ((x >>= f).run c) g s r s'' := by
  rw [StateT.run_bind]
  exact hx.bind hf

theorem run_lift (hx : Yields x g s a s') (c : σ) :
    Yields ((liftM x : StateT σ Eval α).run c) g s (a, c) s' := hx.bind (.pure _)

theorem run_mapM {h : α → StateT σ Eval β} {k : α → β} {as : List α}
    (hk : ∀ a ∈ as, Yields ((h a).run c) g s (k a, c) s) :
    Yields ((as.mapM h).run c) g s (as.map k, c) s := by
  induction as with
  | nil => exact .pure ([], c)
  | cons a as ih =>
    rw [List.mapM_cons]
    exact run_bind (hk a (List.mem_cons_self ..))
      (run_bind (ih fun b hb => hk b (List.mem_cons_of_mem _ hb)) (.pure _))

end

/-- A step that is done until it is done leaves the store as its last round does; `state` and `stores`
tell what there is before each round. -/
theorem untilDone {σ : Type} {step : σ → Eval (σ × Bool)} (state : Nat → σ) (stores : Nat → Store)
    {last : σ} {n : Nat}
    (hstep : ∀ i < n, Yields (step (state i)) g (stores i) (state (i + 1), false) (stores (i + 1)))
    (hlast : Yields (step (state n)) g (stores n) (last, true) s') (hn : n < g.rounds) :
    Yields (Eval.untilDone step (state 0)) g (stores 0) last s' := by
  have hrepeated : ∀ rounds, n < rounds →
      Yields (Eval.repeated step rounds (state 0)) g (stores 0) last s' := by
    clear hn
    induction n generalizing state stores with
    | zero =>
      intro rounds hn
      obtain ⟨rounds, rfl⟩ := Nat.exists_eq_succ_of_ne_zero (Nat.ne_zero_of_lt hn)
      exact hlast.bind (.pure last)
    | succ n ih =>
      intro rounds hn
      obtain ⟨rounds, rfl⟩ := Nat.exists_eq_succ_of_ne_zero (Nat.ne_zero_of_lt hn)
      refine (hstep 0 (Nat.succ_pos n)).bind ?_
      exact ih (fun i => state (i + 1)) (fun i => stores (i + 1))
        (fun i hi => hstep (i + 1) (Nat.succ_lt_succ hi)) hlast rounds (Nat.lt_of_succ_lt_succ hn)
  exact hrepeated g.rounds hn

end Yields
end SchemaWrappers.Template
