import SchemaWrappers.Proofs.Template.Scoping
import SchemaWrappers.Proofs.Template.Yields

namespace SchemaWrappers.Template
open Eval

variable {g : Engine} {s : Store} {p : Place} {l : Slot} {stand : Stand}

theorem yields_bind_none {α β : Type} {x : OptionT Eval α} (h : Yields x.run g s none s)
    (f : α → OptionT Eval β) : Yields (x >>= f).run g s none s := Yields.bind h (.pure none)

theorem yields_attempt_none {α : Type} {x : OptionT Eval α} (h : Yields x.run g s none s) :
    Yields (attempt x).run g s none s := h.tryCatch _

theorem yields_known_name (n : String) (fuel : Nat) :
    Yields (known p fuel (.name n)).run g s none s := by
  cases fuel <;> rfl

theorem yields_known (l : Slot) (fuel : Nat) : Yields (known p fuel l.expr).run g s none s := by
  cases hf : l.field with
  | none =>
    rw [Slot.expr_of_none hf]
    exact yields_known_name l.owner fuel
  | some f =>
    rw [Slot.expr_of_some hf]
    cases fuel with
    | zero => rfl
    | succ fuel =>
      rw [known]
      exact yields_attempt_none (yields_bind_none (yields_known_name l.owner fuel) _)

theorem yields_folded_name (n : String) (fuel : Nat) :
    Yields (folded p fuel (.name n)) g s (.name n) s := by
  cases fuel with
  | zero => rfl
  | succ fuel =>
    rw [folded]
    exact (Yields.pure _).bind ((yields_known_name n _).bind (.pure _))

/-- Nothing of a slot is worked out beforehand. -/
theorem yields_folded (l : Slot) (fuel : Nat) : Yields (folded p fuel l.expr) g s l.expr s := by
  cases hf : l.field with
  | none =>
    rw [Slot.expr_of_none hf]
    exact yields_folded_name l.owner fuel
  | some f =>
    have hknown := yields_known (g := g) (s := s) (p := p) l fuel
    rw [Slot.expr_of_some hf] at hknown ⊢
    cases fuel with
    | zero => rfl
    | succ fuel =>
      rw [folded]
      exact (yields_folded_name l.owner fuel).bind ((Yields.pure _).bind (hknown.bind (.pure _)))

theorem yields_checkName {done : Bool} {n : String} (hn : stand.declares n = true) (fuel : Nat) :
    Yields (Check.expr stand done fuel (.name n)) g s (.name n) s := by
  cases fuel with
  | zero => rfl
  | succ fuel =>
    rw [Check.expr]
    rw [if_neg (by simp)]
    refine (Yields.pure (Expr.name n)).bind ?_
    simp only [hn, Bool.not_true, Bool.false_eq_true, ↓reduceIte]
    exact .pure _

/-- A slot passes if the name that it asks for is declared. -/
theorem yields_checkExpr (hl : stand.declares l.owner = true) (done : Bool) (fuel : Nat) :
    Yields (Check.expr stand done fuel l.expr) g s l.expr s := by
  cases hf : l.field with
  | none =>
    rw [Slot.expr_of_none hf]
    exact yields_checkName hl fuel
  | some f =>
    have hfolded := yields_folded (g := g) (s := s) (p := stand.place) l fuel
    rw [Slot.expr_of_some hf] at hfolded ⊢
    cases fuel with
    | zero => rfl
    | succ fuel =>
      rw [Check.expr.eq_def]
      dsimp only
      split
      · exact hfolded.bind ((yields_checkName hl fuel).bind (.pure _))
      · exact (Yields.pure _).bind ((yields_checkName hl fuel).bind (.pure _))

theorem yields_checkData {cs : List Char} (fuel : Nat) {i : Item} (hi : i ∈ dataItems cs) :
    Yields (Check.item stand fuel i) g s i s := by
  rw [dataItems] at hi
  split at hi
  · cases hi
  · obtain rfl := List.mem_singleton.mp hi
    exact .pure _

theorem yields_checkItem (hl : stand.declares l.owner = true) (fuel : Nat) :
    ∀ i ∈ l.items, Yields (Check.item stand fuel i) g s i s := by
  intro i hi
  rw [Slot.items] at hi
  rcases List.mem_append.mp hi with hi | hi
  · exact yields_checkData fuel hi
  · obtain rfl := List.mem_singleton.mp hi
    exact (yields_known l fuel).bind ((yields_checkExpr hl false fuel).bind (.pure _))

theorem joinTexts_row (r : Row) : Check.joinTexts r.items = r.items := by
  obtain ⟨row, tail⟩ := r
  rw [Row.items]
  induction row with
  | nil =>
    rw [List.flatMap_nil, List.nil_append, dataItems]
    split
    · rfl
    · rfl
  | cons l row ih =>
    dsimp only at ih ⊢
    rw [List.flatMap_cons, Slot.items, List.append_assoc, List.append_assoc, dataItems]
    split
    · exact congrArg (List.cons (Item.value l.expr)) ih
    · have hvalue : Check.joinTexts (.value l.expr :: (row.flatMap Slot.items ++ dataItems tail)) =
          .value l.expr :: (row.flatMap Slot.items ++ dataItems tail) :=
        congrArg (List.cons (Item.value l.expr)) ih
      change Check.joinTexts (.data _ :: .value l.expr :: (row.flatMap Slot.items ++ dataItems tail)) = _
      rw [Check.joinTexts, hvalue]
      rfl

theorem yields_checkOutput {r : Row} (hr : ∀ l ∈ r.slots, stand.declares l.owner = true)
    (hguard : stand.guarded = false) (fuel : Nat) (known : Bool) :
    Yields ((Check.part stand fuel (.output r.items)).run known) g s (.output r.items, known) s := by
  cases fuel with
  | zero => rfl
  | succ fuel =>
    have hitems : ∀ i ∈ r.items, Yields (Check.item stand fuel i) g s i s := by
      intro i hi
      rcases List.mem_append.mp hi with hi | hi
      · obtain ⟨l, hl, hi⟩ := List.mem_flatMap.mp hi
        exact yields_checkItem (hr l hl) fuel i hi
      · exact yields_checkData fuel hi
    have hmap := Yields.run_mapM (c := known) (k := id) fun i hi => (hitems i hi).run_lift known
    rw [List.map_id] at hmap
    rw [Check.part, hguard]
    refine Yields.run_bind (Yields.pure (known, known)) (hmap.run_bind ?_)
    rw [joinTexts_row]
    exact .pure _

theorem yields_checkParts_nil (fuel : Nat) (known : Bool) :
    Yields ((Check.parts stand fuel []).run known) g s ([], known) s := by
  cases fuel <;> rfl

/-- A part that passes, before parts that pass; the template does not extend another one. -/
theorem yields_checkParts_cons {q : Part} {qs : List Part}
    (hq : ∀ fuel, Yields ((Check.part stand fuel q).run false) g s (q, false) s)
    (hqs : ∀ fuel, Yields ((Check.parts stand fuel qs).run false) g s (qs, false) s) (fuel : Nat) :
    Yields ((Check.parts stand fuel (q :: qs)).run false) g s (q :: qs, false) s := by
  cases fuel with
  | zero => rfl
  | succ fuel =>
    rw [Check.parts.eq_def]
    dsimp only
    refine Yields.run_bind (Yields.pure (false, false)) ((hq fuel).run_bind ?_)
    exact (hqs fuel).run_bind (.pure _)

theorem yields_checkJoined {r : Row} {qs : List Part} (hr : ∀ l ∈ r.slots, stand.declares l.owner = true)
    (hguard : stand.guarded = false)
    (hqs : ∀ fuel, Yields ((Check.parts stand fuel qs).run false) g s (qs, false) s) (fuel : Nat) :
    Yields ((Check.parts stand fuel (Reader.joinOutputs r.items qs)).run false) g s
      (Reader.joinOutputs r.items qs, false) s := by
  rw [Reader.joinOutputs]
  split
  · exact hqs fuel
  · exact yields_checkParts_cons (fun fuel => yields_checkOutput hr hguard fuel false) hqs fuel

theorem declares_inner {scope : Scope} {n : String} : (stand.inner scope).declares n = true ↔
    scope.declares n = true ∨ stand.declares n = true := by
  rw [Stand.declares, Stand.inner, List.contains_append, Bool.or_eq_true, Scope.contains_starts]
  rfl

/-- The loop of a sheet gives no value to the name of its own count. -/
theorem not_setsLoop {t : Sheet} (ht : t.Apart) : (Part.withinAll [t.loop]).any Check.setsLoop = false := by
  have hloop : Check.setsLoop t.loop = false := by
    simp [Check.setsLoop, Sheet.loop, Target.names, ht.item.symm]
  rw [Sheet.withinAll_loop, List.any_cons, hloop, Sheet.inside, Reader.joinOutputs]
  split
  · rfl
  · rfl

theorem yields_checkLoop {t : Sheet} (ht : t.Apart) (hsource : stand.declares t.source = true)
    (hguard : stand.guarded = false) (hloops : stand.loops < Check.mostLoops) (fuel : Nat) :
    Yields ((Check.part stand fuel t.loop).run false) g s (t.loop, false) s := by
  cases fuel with
  | zero => rfl
  | succ fuel =>
    let inner := stand.looped false (Scope.ofLoop stand.declares (.name t.item) false t.inside)
    have hdeclared : ∀ l ∈ t.body.slots, inner.declares l.owner = true := fun l hl =>
      declares_inner.mpr ((t.hasRead_loop stand.declares).seen l.owner (List.mem_map_of_mem hl))
    have hinside : Yields ((Check.parts inner fuel t.inside).run false) g s (t.inside, false) s :=
      yields_checkJoined hdeclared hguard (fun fuel => yields_checkParts_nil fuel false) fuel
    rw [Sheet.loop, Check.part.eq_def]
    dsimp only
    rw [← Sheet.loop, not_setsLoop ht, if_neg Bool.false_ne_true, if_neg (by simpa using hloops)]
    refine Yields.run_bind (Yields.pure (none, false)) ?_
    refine Yields.run_bind ((yields_checkName hsource fuel).run_lift false) ?_
    rw [ht.countsItself_inside]
    exact hinside.run_bind (Yields.run_bind (yields_checkParts_nil fuel false) (.pure _))

/-- A sheet passes as it stands; it has no blocks, and extends no other template. -/
theorem yields_checkTemplate {t : Sheet} (ht : t.Apart) (fuel : Nat) (name : String) :
    Yields (Check.template fuel name t.parts) g s ⟨name, t.parts, [], false⟩ s := by
  let root : Stand :=
    { top := true, root := true, declared := (Scope.ofRoot ["self"] t.parts).starts.map (·.1) }
  have hdeclared {n : String} (hn : n ∈ t.owners) : root.declares n = true := by
    rw [Stand.declares, Scope.contains_starts]
    exact ht.declares_root hn
  have hloops : root.loops < Check.mostLoops := show 0 < 20 by decide
  have hloop (fuel : Nat) :
      Yields ((Check.parts root fuel [t.loop]).run false) g s ([t.loop], false) s :=
    yields_checkParts_cons (yields_checkLoop ht (hdeclared (by simp [Sheet.owners])) rfl hloops)
      (fun fuel => yields_checkParts_nil fuel false) fuel
  have hparts : Yields ((Check.parts root fuel t.parts).run false) g s (t.parts, false) s :=
    yields_checkJoined (fun l hl => hdeclared (by simpa [Sheet.owners, Row.owners] using .inl ⟨l, hl, rfl⟩))
      rfl hloop fuel
  rw [Check.template, Sheet.withinAll_parts, Sheet.inside, Reader.joinOutputs, Reader.joinOutputs]
  split
  all_goals
    split
    all_goals exact (Yields.pure ()).bind (hparts.bind ((Yields.pure []).bind (.pure _)))

end SchemaWrappers.Template
