import Mathlib.Data.List.Forall2

namespace SchemaWrappers
variable {α β ε : Type} {f : α → Except ε β}

theorem mapM_ok {g : α → β} {as : List α} (h : ∀ a ∈ as, f a = .ok (g a)) :
    as.mapM f = .ok (as.map g) := by
  induction as with
  | nil => rfl
  | cons a as ih =>
    rw [List.mapM_cons, h a (List.mem_cons_self ..), ih fun b hb => h b (List.mem_cons_of_mem _ hb)]
    rfl

/-- Where all failing steps fail alike, one of them makes the whole fail like that. -/
theorem mapM_error {e : ε} {as : List α} (h : ∀ a ∈ as, f a = .error e ∨ ∃ b, f a = .ok b)
    (he : ∃ a ∈ as, f a = .error e) : as.mapM f = .error e := by
  induction as with
  | nil => simp at he
  | cons a as ih =>
    rw [List.mapM_cons]
    rcases h a (List.mem_cons_self ..) with ha | ⟨b, ha⟩
    · rw [ha]
      rfl
    · have htail : ∃ a ∈ as, f a = .error e := by
        obtain ⟨a', ha', he'⟩ := he
        rcases List.mem_cons.mp ha' with rfl | ha'
        · simp [ha] at he'
        · exact ⟨a', ha', he'⟩
      rw [ha, ih (fun b hb => h b (List.mem_cons_of_mem _ hb)) htail]
      rfl

theorem mapM_eq_ok_iff {as : List α} {bs : List β} :
    as.mapM f = .ok bs ↔ List.Forall₂ (fun a b => f a = .ok b) as bs := by
  induction as generalizing bs with
  | nil => simp [pure, Except.pure, eq_comm]
  | cons a as ih =>
    rw [List.mapM_cons, List.forall₂_cons_left_iff]
    cases ha : f a with
    | error e => simp [bind, Except.bind]
    | ok b =>
      cases has : as.mapM f with
      | error e => simp [bind, Except.bind, ← ih, has]
      | ok bs' => simp [bind, Except.bind, pure, Except.pure, ← ih, has, eq_comm]

/-- A step that does not fail where another one does not, and with the same results. -/
theorem mapM_ok_of_imp {g : α → Except ε β} {as : List α} {bs : List β} (hs : as.mapM f = .ok bs)
    (h : ∀ a ∈ as, ∀ b, f a = .ok b → g a = .ok b) : as.mapM g = .ok bs := by
  rw [mapM_eq_ok_iff] at hs ⊢
  induction hs with
  | nil => exact .nil
  | cons ha _ ih =>
    exact .cons (h _ (List.mem_cons_self ..) _ ha) (ih fun a hm => h a (List.mem_cons_of_mem _ hm))

theorem mem_of_forall₂_ok {as : List α} {bs : List β} {b : β}
    (h : List.Forall₂ (fun a b => f a = .ok b) as bs) : b ∈ bs ↔ ∃ a ∈ as, f a = .ok b := by
  induction h with
  | nil => simp
  | cons hb _ ih => simp [ih, hb, eq_comm]

/-- What stands beside two lists, one behind the other, stands beside each of them. -/
theorem forall₂_append_left {R : α → β → Prop} {as as' : List α} {bs : List β}
    (h : List.Forall₂ R (as ++ as') bs) :
    ∃ front back, bs = front ++ back ∧ List.Forall₂ R as front ∧ List.Forall₂ R as' back := by
  induction as generalizing bs with
  | nil => exact ⟨[], bs, rfl, .nil, h⟩
  | cons a as ih =>
    obtain ⟨b, bs, hb, hrest, rfl⟩ := List.forall₂_cons_left_iff.mp h
    obtain ⟨front, back, rfl, hfront, hback⟩ := ih hrest
    exact ⟨b :: front, back, rfl, .cons hb hfront, hback⟩

theorem bind_eq_ok_iff {x : Except ε α} {b : β} :
    x.bind f = .ok b ↔ ∃ a, x = .ok a ∧ f a = .ok b := by
  cases x with
  | error e => simp [Except.bind]
  | ok a => simp [Except.bind]

theorem bind_eq_error_iff {x : Except ε α} {f : α → Except ε β} {e : ε} :
    x.bind f = .error e ↔ x = .error e ∨ ∃ a, x = .ok a ∧ f a = .error e := by
  cases x with
  | error e' => simp [Except.bind]
  | ok a => simp [Except.bind]

theorem mapError_eq_error_iff {ε' : Type} {x : Except ε α} {g : ε → ε'} {e : ε'} :
    x.mapError g = .error e ↔ ∃ e', x = .error e' ∧ g e' = e := by
  cases x with
  | error e' => simp [Except.mapError]
  | ok a => simp [Except.mapError]

theorem mapError_eq_ok_iff {ε' : Type} {x : Except ε α} {g : ε → ε'} {a : α} :
    x.mapError g = .ok a ↔ x = .ok a := by
  cases x with
  | error e' => simp [Except.mapError]
  | ok a => simp [Except.mapError]

theorem map_eq_ok_iff {g : α → β} {x : Except ε α} {b : β} :
    x.map g = .ok b ↔ ∃ a, x = .ok a ∧ g a = b := by
  cases x with
  | error e => simp [Except.map]
  | ok a => simp [Except.map]

/-- A pass that carries a state along fails at the first element whose step fails, where it does not
depend on the state which steps do. -/
theorem foldlM_eq_error_iff {σ : Type} {step : σ → α → Except ε σ} {Fails : α → ε → Prop}
    (h : ∀ s a e, step s a = .error e ↔ Fails a e) {as : List α} {s : σ} {e : ε} :
    as.foldlM step s = .error e ↔
      ∃ before a after, as = before ++ a :: after ∧ (∀ b ∈ before, ∀ e, ¬ Fails b e) ∧ Fails a e := by
  induction as generalizing s with
  | nil => simp [pure, Except.pure]
  | cons a as ih =>
    have hcons : (a :: as).foldlM step s = (step s a).bind fun s => as.foldlM step s := List.foldlM_cons
    rw [hcons, bind_eq_error_iff, h]
    constructor
    · rintro (ha | ⟨s', ha, hrest⟩)
      · exact ⟨[], a, as, rfl, by simp, ha⟩
      · obtain ⟨before, a', after, rfl, hbefore, he⟩ := ih.mp hrest
        refine ⟨a :: before, a', after, rfl, List.forall_mem_cons.mpr ⟨fun e hfails => ?_, hbefore⟩, he⟩
        rw [(h s a e).mpr hfails] at ha
        cases ha
    · rintro ⟨_ | ⟨b, before⟩, a', after, hsplit, hbefore, he⟩
      · obtain ⟨rfl, rfl⟩ := List.cons.inj hsplit
        exact .inl he
      · obtain ⟨rfl, rfl⟩ := List.cons.inj hsplit
        obtain ⟨ha, hbefore⟩ := List.forall_mem_cons.mp hbefore
        cases hs : step s a with
        | error e' => exact absurd ((h s a e').mp hs) (ha e')
        | ok s' => exact .inr ⟨s', rfl, ih.mpr ⟨before, a', after, rfl, hbefore, he⟩⟩

end SchemaWrappers
