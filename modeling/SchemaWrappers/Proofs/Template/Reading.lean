import SchemaWrappers.Template.Tag

namespace SchemaWrappers.Template.Reader

section
variable {α β : Type} {l : Lexeme} {ls : List Lexeme} {opened : List String}
  {sought : List (List String)} {fits : Option Token → Bool}

theorem run_bind {p : ReaderM α} {f : α → ReaderM β} {c d : Cursor} {a : α}
    (h : p.run c = .ok (a, d)) : (p >>= f).run c = (f a).run d := by
  rw [StateT.run_bind, h]
  rfl

theorem run_peek (hl : ∀ f, l.token ≠ .bad f) :
    peek.run ⟨l :: ls, opened, sought⟩ = .ok (some l.token, ⟨l :: ls, opened, sought⟩) := by
  obtain ⟨t, n⟩ := l
  cases t with
  | bad f => exact absurd rfl (hl f)
  | _ => rfl

theorem run_advance : advance.run ⟨l :: ls, opened, sought⟩ = .ok ((), ⟨ls, opened, sought⟩) := rfl

theorem run_acceptIf (hl : ∀ f, l.token ≠ .bad f) (hf : fits (some l.token) = true) :
    (acceptIf fits).run ⟨l :: ls, opened, sought⟩ = .ok (true, ⟨ls, opened, sought⟩) := by
  rw [acceptIf, run_bind (run_peek hl), if_pos hf]
  rfl

theorem run_acceptIf_not (hl : ∀ f, l.token ≠ .bad f) (hf : fits (some l.token) = false) :
    (acceptIf fits).run ⟨l :: ls, opened, sought⟩ = .ok (false, ⟨l :: ls, opened, sought⟩) := by
  rw [acceptIf, run_bind (run_peek hl), if_neg (by simp [hf])]
  rfl

end

section
variable {α β : Type} {p : ReaderM α} {f : α → ReaderM β} {ts : List Token} {a : α} {b : β}

def Ends (t : Token) : Prop := t = .outputEnd ∨ t = .tagEnd

/-- Reading `ts` gives `a` if an output or a tag ends behind them. -/
def Reads (p : ReaderM α) (ts : List Token) (a : α) : Prop :=
  ∀ ls l rest opened sought, ls.map (·.token) = ts → Ends l.token →
    p.run ⟨ls ++ l :: rest, opened, sought⟩ = .ok (a, ⟨l :: rest, opened, sought⟩)

abbrev Stops (p : ReaderM α) (a : α) : Prop := Reads p [] a

theorem Ends.not_bad {t : Token} (h : Ends t) (f : Fault) : t ≠ .bad f := by
  rcases h with rfl | rfl
  · simp
  · simp

theorem stops_iff : Stops p a ↔ ∀ l rest opened sought, Ends l.token →
    p.run ⟨l :: rest, opened, sought⟩ = .ok (a, ⟨l :: rest, opened, sought⟩) := by
  constructor
  · intro h l rest opened sought
    exact h [] l rest opened sought rfl
  · intro h ls l rest opened sought hls
    obtain rfl := List.map_eq_nil_iff.mp hls
    exact h l rest opened sought

theorem Reads.bind (hp : Reads p ts a) (hf : Stops (f a) b) : Reads (p >>= f) ts b := by
  intro ls l rest opened sought hls hl
  rw [run_bind (hp ls l rest opened sought hls hl)]
  exact stops_iff.mp hf l rest opened sought hl

theorem stops_pure (a : α) : Stops (pure a : ReaderM α) a := stops_iff.mpr fun _ _ _ _ _ => rfl

theorem stops_acceptIf {fits : Option Token → Bool} (houtput : fits (some .outputEnd) = false)
    (htag : fits (some .tagEnd) = false) : Stops (acceptIf fits) false := by
  refine stops_iff.mpr fun l rest opened sought hl => run_acceptIf_not hl.not_bad ?_
  rcases hl with hl | hl
  · rwa [hl]
  · rwa [hl]

theorem stops_acceptMark (m : String) : Stops (acceptMark m) false := stops_acceptIf rfl rfl
theorem stops_acceptName (n : String) : Stops (acceptName n) false := stops_acceptIf rfl rfl

theorem stops_operation? (level : List (String × Operation)) : Stops (operation? level) none := by
  refine stops_iff.mpr fun l rest opened sought hl => ?_
  rw [operation?, run_bind (run_peek hl.not_bad)]
  rcases hl with hl | hl
  · rw [hl]
    rfl
  · rw [hl]
    rfl

theorem stops_comparison? : Stops comparison? none := by
  refine stops_iff.mpr fun l rest opened sought hl => ?_
  rw [comparison?, run_bind (run_peek hl.not_bad)]
  rcases hl with hl | hl
  · rw [hl]
    rfl
  · rw [hl]
    rfl

theorem stops_leftward {level : List (String × Operation)} {operand : ReaderM Expr} {fuel : Nat}
    {e : Expr} : Stops (leftward level operand (fuel + 1) e) e :=
  (stops_operation? _).bind (stops_pure _)

theorem stops_worded {word : String} {make : Expr → Expr → Expr} {operand : ReaderM Expr}
    {fuel : Nat} {e : Expr} : Stops (worded word make operand (fuel + 1) e) e :=
  (stops_acceptName _).bind (stops_pure _)

theorem stops_compared {fuel : Nat} : Stops (compared (fuel + 1)) [] := by
  rw [compared]
  exact stops_comparison?.bind (stops_pure [])

theorem stops_joinedTo {fuel : Nat} : Stops (joinedTo (fuel + 1)) [] := by
  rw [joinedTo]
  exact (stops_acceptMark "~").bind (stops_pure [])

theorem stops_choice {start fuel : Nat} {e : Expr} : Stops (choice start (fuel + 1) e) e := by
  rw [choice]
  exact (stops_acceptName "if").bind (stops_pure _)

theorem stops_suffixed {fuel : Nat} {e : Expr} : Stops (suffixed (fuel + 1) e) e := by
  rw [suffixed]
  exact (stops_acceptMark ".").bind ((stops_acceptMark "[").bind ((stops_acceptMark "(").bind (stops_pure _)))

theorem stops_filtered {fuel : Nat} {e : Expr} : Stops (filtered (fuel + 1) e) e := by
  rw [filtered]
  exact (stops_acceptMark "|").bind ((stops_acceptName "is").bind ((stops_acceptMark "(").bind (stops_pure _)))

def Peeks (q : ReaderM α) (t : Token) (a : α) : Prop :=
  ∀ l ls opened sought, l.token = t →
    q.run ⟨l :: ls, opened, sought⟩ = .ok (a, ⟨l :: ls, opened, sought⟩)

def Takes (q : ReaderM α) (t : Token) (a : α) : Prop :=
  ∀ l ls opened sought, l.token = t → q.run ⟨l :: ls, opened, sought⟩ = .ok (a, ⟨ls, opened, sought⟩)

variable {t : Token}

theorem Peeks.reads (hp : Peeks p t a) (hf : Reads (f a) (t :: ts) b) :
    Reads (p >>= f) (t :: ts) b := by
  intro ls l rest opened sought hls hl
  obtain ⟨k, ls, rfl, hk, hls'⟩ := List.map_eq_cons_iff.mp hls
  rw [List.cons_append, run_bind (hp k _ opened sought hk)]
  exact hf (k :: ls) l rest opened sought hls hl

theorem Takes.reads (hp : Takes p t a) (hf : Reads (f a) ts b) : Reads (p >>= f) (t :: ts) b := by
  intro ls l rest opened sought hls hl
  obtain ⟨k, ls, rfl, hk, hls'⟩ := List.map_eq_cons_iff.mp hls
  rw [List.cons_append, run_bind (hp k _ opened sought hk)]
  exact hf ls l rest opened sought hls' hl

theorem peeks_peek (ht : ∀ f, t ≠ .bad f) : Peeks peek t (some t) := by
  rintro l ls opened sought rfl
  exact run_peek ht

theorem takes_advance (t : Token) : Takes advance t () := fun _ _ _ _ _ => rfl

theorem peeks_acceptIf {fits : Option Token → Bool} (ht : ∀ f, t ≠ .bad f)
    (hf : fits (some t) = false) : Peeks (acceptIf fits) t false := by
  rintro l ls opened sought rfl
  exact run_acceptIf_not ht hf

theorem takes_acceptIf {fits : Option Token → Bool} (ht : ∀ f, t ≠ .bad f)
    (hf : fits (some t) = true) : Takes (acceptIf fits) t true := by
  rintro l ls opened sought rfl
  exact run_acceptIf ht hf

theorem peeks_acceptMark_name (m n : String) : Peeks (acceptMark m) (.name n) false :=
  peeks_acceptIf (by simp) rfl

theorem takes_acceptMark (m : String) : Takes (acceptMark m) (.mark m) true :=
  takes_acceptIf (by simp) (beq_self_eq_true m)

theorem peeks_acceptName_name {m n : String} (h : m ≠ n) : Peeks (acceptName m) (.name n) false :=
  peeks_acceptIf (by simp) (beq_false_of_ne h)

end

section
variable {n : String} {ts : List Token} {e : Expr} {fuel : Nat}

theorem takes_primary (hn : constants.lookup n = none) : Takes (primary (fuel + 1)) (.name n) (.name n) := by
  rintro ⟨t, k⟩ ls opened sought rfl
  rw [primary, run_bind (run_peek (by simp))]
  change Except.ok (((constants.lookup n).map Expr.constant).getD (.name n), _) = _
  rw [hn]
  rfl

theorem reads_suffixed_field (f : String) (fuel : Nat) :
    Reads (suffixed (fuel + 2) e) [.mark ".", .name f] (.field e f) := by
  rw [suffixed]
  refine (takes_acceptMark ".").reads ((peeks_peek (by simp)).reads ?_)
  exact (takes_advance _).reads stops_suffixed

theorem reads_signed (hn : constants.lookup n = none)
    (hs : Reads (suffixed (fuel + 1) (.name n)) ts e) :
    Reads (signed true (fuel + 2)) (.name n :: ts) e := by
  rw [signed]
  refine (peeks_acceptMark_name "-" n).reads ?_
  refine (peeks_acceptMark_name "+" n).reads ?_
  exact (takes_primary hn).reads (hs.bind stops_filtered)

/-- An operand that starts with a name is an expression. -/
theorem reads_expr (choices : Bool) (hn : n ≠ "not")
    (h : Reads (signed true (fuel + 1)) (.name n :: ts) e) :
    Reads (expr choices (fuel + 9)) (.name n :: ts) e := by
  have hpower : Reads (power (fuel + 2)) (.name n :: ts) e := by
    rw [power]
    exact h.bind stops_leftward
  have hproduct : Reads (product (fuel + 3)) (.name n :: ts) e := by
    rw [product]
    exact hpower.bind stops_leftward
  have hjoined : Reads (joined (fuel + 4)) (.name n :: ts) e := by
    rw [joined]
    exact hproduct.bind (stops_joinedTo.bind (stops_pure _))
  have hsum : Reads (sum (fuel + 5)) (.name n :: ts) e := by
    rw [sum]
    exact hjoined.bind stops_leftward
  have hnegation : Reads (negation (fuel + 6)) (.name n :: ts) e := by
    rw [negation]
    refine (peeks_acceptName_name hn.symm).reads ?_
    exact hsum.bind (stops_compared.bind (stops_pure _))
  have hboth : Reads (both (fuel + 7)) (.name n :: ts) e := by
    rw [both]
    exact hnegation.bind stops_worded
  have heither : Reads (either (fuel + 8)) (.name n :: ts) e := by
    rw [either]
    exact hboth.bind stops_worded
  intro ls l rest opened sought hls hl
  rw [expr, run_bind (a := _) rfl, run_bind (heither ls l rest opened sought hls hl)]
  cases choices
  · rfl
  · exact stops_iff.mp stops_choice l rest opened sought hl

theorem reads_tuple (choices bracketed : Bool) {stops : List String} (hstops : n ∉ stops)
    (h : Reads (expr choices (fuel + 1)) (.name n :: ts) e) :
    Reads (tuple choices bracketed stops (fuel + 3)) (.name n :: ts) e := by
  have hends : endsTuple stops (some (.name n)) = false := by simpa [endsTuple] using hstops
  have hitems : Reads (tupleItems choices stops (fuel + 2)) (.name n :: ts) ([e], false) := by
    rw [tupleItems]
    refine (peeks_peek (by simp)).reads ?_
    rw [if_neg (by simp [hends])]
    exact h.bind ((stops_acceptMark ",").bind (stops_pure _))
  rw [tuple]
  exact hitems.bind (stops_pure _)

end

section
variable {stops : Option (List String)} {items : List Item} {l k : Lexeme} {ls rest after : List Lexeme}
  {opened : List String} {sought : List (List String)} {fuel : Nat}

theorem run_parts_data {s : String} (hl : l.token = .data s) :
    (parts stops items (fuel + 1)).run ⟨l :: rest, opened, sought⟩ =
      (parts stops (items ++ [.data s]) fuel).run ⟨rest, opened, sought⟩ := by
  obtain ⟨t, n⟩ := l
  obtain rfl : t = .data s := hl
  rw [parts, run_bind (run_peek (by simp))]
  rfl

theorem run_parts_output {ts : List Token} {e : Expr} (hl : l.token = .outputStart)
    (hls : ls.map (·.token) = ts) (hk : k.token = .outputEnd)
    (he : Reads (tuple true false [] fuel) ts e) :
    (parts stops items (fuel + 1)).run ⟨l :: (ls ++ k :: rest), opened, sought⟩ =
      (parts stops (items ++ [.value e]) fuel).run ⟨rest, opened, sought⟩ := by
  obtain ⟨t, n⟩ := l
  obtain rfl : t = .outputStart := hl
  have hdemand : demandOutputEnd.run ⟨k :: rest, opened, sought⟩ = .ok ((), ⟨rest, opened, sought⟩) := by
    rw [demandOutputEnd, demandIf, run_bind (run_acceptIf (by simp [hk]) (by rw [hk]))]
    rfl
  rw [parts, run_bind (run_peek (by simp))]
  dsimp only
  rw [run_bind run_advance, run_bind (he ls k rest opened sought hls (.inl hk)), run_bind hdemand]

/-- The end of a template. -/
theorem run_parts_nil :
    (parts none items (fuel + 1)).run ⟨[], opened, sought⟩ =
      .ok ((joinOutputs items [], ""), ⟨[], opened, sought⟩) := by
  rw [parts]
  rfl

/-- The last tag of a body. -/
theorem run_parts_stop {words : List String} {word : String} (hl : l.token = .tagStart)
    (hk : k.token = .name word) (hw : words.contains word = true) :
    (parts (some words) items (fuel + 1)).run ⟨l :: k :: rest, opened, sought⟩ =
      .ok ((joinOutputs items [], word), ⟨rest, opened, sought⟩) := by
  obtain ⟨t, n⟩ := l
  obtain rfl : t = .tagStart := hl
  rw [parts, run_bind (run_peek (by simp))]
  dsimp only
  rw [run_bind run_advance, run_bind (run_peek (by simp [hk])), hk]
  simp only [Option.any_some, hw, ↓reduceIte]
  rfl

theorem run_target {n m : String} (hl : l.token = .name n) (hk : k.token = .name m)
    (hn : constants.lookup n = none) (hstop : n ≠ m) (fuel : Nat) :
    (target false [m] (fuel + 2)).run ⟨l :: k :: rest, opened, sought⟩ =
      .ok (.name n, ⟨k :: rest, opened, sought⟩) := by
  have hitem : (targetItem false (fuel + 1)).run ⟨l :: k :: rest, opened, sought⟩ =
      .ok ((some (.name n), "name"), ⟨k :: rest, opened, sought⟩) := by
    have hafter : peekAfter.run ⟨l :: k :: rest, opened, sought⟩ =
        .ok (some (.name m), ⟨l :: k :: rest, opened, sought⟩) := by
      obtain ⟨t, j⟩ := k
      obtain rfl : t = .name m := hk
      rfl
    rw [targetItem, run_bind hafter, Bool.false_and, if_neg (by simp),
      run_bind (takes_primary hn l _ _ _ hl)]
    rfl
  have hitems : (targetItems false [m] (fuel + 2)).run ⟨l :: k :: rest, opened, sought⟩ =
      .ok (([(some (.name n), "name")], false), ⟨k :: rest, opened, sought⟩) := by
    rw [targetItems, run_bind (run_peek (by simp [hl])), hl, if_neg (by simp [endsTuple, hstop]),
      run_bind hitem, run_bind (peeks_acceptMark_name "," m k _ _ _ hk)]
    rfl
  rw [target, run_bind hitems]
  rfl

/-- What a loop over the items of a name encloses is read with it. -/
theorem run_tag_for {n m : String} {k₁ k₂ k₃ k₄ : Lexeme} {here : Nat} {ps : List Part}
    (h₁ : k₁.token = .name n) (h₂ : k₂.token = .name "in") (h₃ : k₃.token = .name m)
    (h₄ : k₄.token = .tagEnd) (hn : constants.lookup n = none) (hin : n ≠ "in")
    (hm : constants.lookup m = none) (hnot : m ≠ "not") (hrecursive : m ≠ "recursive")
    (hbody : (parts (some ["endfor", "else"]) [] (fuel + 12)).run
        ⟨rest, opened, ["endfor", "else"] :: sought⟩ =
      .ok ((ps, "endfor"), ⟨after, opened, ["endfor", "else"] :: sought⟩)) :
    (tag "for" here (fuel + 14)).run ⟨k₁ :: k₂ :: k₃ :: k₄ :: rest, opened, sought⟩ =
      .ok (.loop (.name n) (.name m) none false ps [], ⟨after, opened, sought⟩) := by
  have hdemand : (demandName "in").run ⟨k₂ :: k₃ :: k₄ :: rest, opened, sought⟩ =
      .ok ((), ⟨k₃ :: k₄ :: rest, opened, sought⟩) := by
    rw [demandName, demandIf, run_bind (run_acceptIf (by simp [h₂]) (by rw [h₂]; rfl))]
    rfl
  have hsource : (tuple false false ["recursive"] (fuel + 13)).run ⟨k₃ :: k₄ :: rest, opened, sought⟩ =
      .ok (.name m, ⟨k₄ :: rest, opened, sought⟩) :=
    reads_tuple false false (by simpa using hrecursive) (reads_expr false hnot
      (reads_signed hm stops_suffixed)) [k₃] k₄ rest opened sought (by simp [h₃]) (.inr h₄)
  have hend : Ends k₄.token := .inr h₄
  have hdemandEnd : ∀ s, demandTagEnd.run ⟨k₄ :: rest, opened, s⟩ = .ok ((), ⟨rest, opened, s⟩) := by
    intro s
    rw [demandTagEnd, demandIf, run_bind (run_acceptIf (by simp [h₄]) (by rw [h₄]))]
    rfl
  have henclosed : (enclosed ["endfor", "else"] (fuel + 13)).run ⟨k₄ :: rest, opened, sought⟩ =
      .ok ((ps, "endfor"), ⟨after, opened, sought⟩) := by
    rw [enclosed, run_bind (stops_iff.mp (stops_acceptMark ":") k₄ rest opened sought hend),
      run_bind (hdemandEnd sought), run_bind (a := ()) (d := ⟨rest, opened, _ :: sought⟩) rfl,
      run_bind hbody]
    rfl
  rw [tag, run_bind (run_target h₁ h₂ hn hin _), run_bind hdemand, run_bind hsource,
    run_bind (stops_iff.mp (stops_acceptName "if") k₄ rest opened sought hend)]
  dsimp only
  rw [if_neg Bool.false_ne_true, run_bind (a := none) (d := ⟨k₄ :: rest, opened, sought⟩) rfl,
    run_bind (stops_iff.mp (stops_acceptName "recursive") k₄ rest opened sought hend),
    run_bind henclosed]
  rfl

/-- A loop stands between the parts before it and those behind it. -/
theorem run_parts_for (items : List Item) {n m word : String} {k₁ k₂ k₃ k₄ k₅ : Lexeme}
    {ps qs : List Part} {c : Cursor}
    (hl : l.token = .tagStart) (hk : k.token = .name "for") (h₁ : k₁.token = .name n)
    (h₂ : k₂.token = .name "in") (h₃ : k₃.token = .name m) (h₄ : k₄.token = .tagEnd)
    (h₅ : k₅.token = .tagEnd) (hstops : stops.any (·.contains "for") = false)
    (hn : constants.lookup n = none) (hin : n ≠ "in") (hm : constants.lookup m = none)
    (hnot : m ≠ "not") (hrecursive : m ≠ "recursive")
    (hbody : (parts (some ["endfor", "else"]) [] (fuel + 12)).run
        ⟨rest, "for" :: opened, ["endfor", "else"] :: sought⟩ =
      .ok ((ps, "endfor"), ⟨k₅ :: after, "for" :: opened, ["endfor", "else"] :: sought⟩))
    (hafter : (parts stops [] (fuel + 15)).run ⟨after, opened, sought⟩ = .ok ((qs, word), c)) :
    (parts stops items (fuel + 16)).run ⟨l :: k :: k₁ :: k₂ :: k₃ :: k₄ :: rest, opened, sought⟩ =
      .ok ((joinOutputs items (.loop (.name n) (.name m) none false ps [] :: qs), word), c) := by
  have hpart : (part (fuel + 15)).run ⟨k :: k₁ :: k₂ :: k₃ :: k₄ :: rest, opened, sought⟩ =
      .ok (.loop (.name n) (.name m) none false ps [], ⟨k₅ :: after, opened, sought⟩) := by
    rw [part, run_bind (run_peek (by simp [hk])), hk]
    dsimp only
    rw [if_pos (by decide), run_bind (a := k.line) rfl, run_bind run_advance,
      run_bind (a := ()) (d := ⟨_, "for" :: opened, sought⟩) rfl,
      run_bind (run_tag_for h₁ h₂ h₃ h₄ hn hin hm hnot hrecursive hbody)]
    rfl
  have hend : demandTagEnd.run ⟨k₅ :: after, opened, sought⟩ = .ok ((), ⟨after, opened, sought⟩) := by
    rw [demandTagEnd, demandIf, run_bind (run_acceptIf (by simp [h₅]) (by rw [h₅]))]
    rfl
  obtain ⟨t, j⟩ := l
  obtain rfl : t = .tagStart := hl
  rw [parts, run_bind (run_peek (by simp))]
  dsimp only
  rw [run_bind run_advance, run_bind (run_peek (by simp [hk])), hk]
  simp only [hstops, Bool.false_eq_true, ↓reduceIte]
  rw [run_bind hpart, run_bind hend, run_bind hafter]
  rfl

end

end SchemaWrappers.Template.Reader
