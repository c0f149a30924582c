import SchemaWrappers.Proofs.Template.Outputs

namespace SchemaWrappers.Template
open Eval

/-- The store within a loop over a list: how far its walk is, and what its names stand for. -/
def Store.within (s : Store) (way : Way) (f : Frame) : Store :=
  { s with cells := s.cells.push (.walk way), frames := s.frames.push f }

def loopFrame (c : Context) (scope : Scope) (outer : Nat) (v : Value) : Frame :=
  ⟨startNames c (fun _ => v) scope, scope.stores, some outer⟩

variable {s : Store} {ts : List String} {folder : String} {rounds fuel n : Nat} {vs : List Value}

section
variable {g : Engine} {k i : Nat} {v : Value}

theorem yields_step (hk : s.cells[k]? = some (.walk (.list n i)))
    (hn : s.cells[n]? = some (.list vs.toArray)) (hv : vs[i]? = some v) : Yields (step k) g s (some v)
      { s with cells := s.cells.setIfInBounds k (.walk (.list n (i + 1))) } := by
  rw [step]
  refine (yields_cell hk).bind ((Yields.pure (Way.list n i)).bind ((yields_items hn).bind ?_))
  rw [List.getElem?_toArray, hv]
  exact (Yields.modified _).bind (.pure _)

/-- A walk through a list ends behind the last item. -/
theorem yields_step_none (hk : s.cells[k]? = some (.walk (.list n i)))
    (hn : s.cells[n]? = some (.list vs.toArray)) (hv : vs[i]? = none) : Yields (step k) g s none
      { s with cells := s.cells.setIfInBounds k (.walk .done) } := by
  rw [step]
  refine (yields_cell hk).bind ((Yields.pure (Way.list n i)).bind ((yields_items hn).bind ?_))
  rw [List.getElem?_toArray, hv]
  exact (Yields.modified _).bind (.pure _)

end

theorem within_walk (s : Store) (way way' : Way) (f : Frame) (ts : List String) :
    { (s.within way f).saying ts with
      cells := ((s.within way f).saying ts).cells.setIfInBounds s.cells.size (.walk way') } =
      (s.within way' f).saying ts := by
  simp only [Store.within, Store.saying, setIfInBounds_push_size]

theorem within_frame (s : Store) (way : Way) (f f' : Frame) (ts : List String) :
    { (s.within way f).saying ts with
      frames := ((s.within way f).saying ts).frames.setIfInBounds s.frames.size f' } =
      (s.within way f').saying ts := by
  simp only [Store.within, Store.saying, setIfInBounds_push_size]

/-- The names of a loop: one that it is given, and others that it looks up in the context. -/
structure Gives (scope : Scope) (x : String) : Prop where
  given : scope.starts.lookup x = some .given
  others : ∀ p ∈ scope.starts, p.2 = .context ∨ p = (x, .given)

/-- A loop that gives its items to one name, and does nothing else. -/
structure Nested.Plain (l : Nested) (x : String) : Prop where
  target : l.target = .name x
  only : l.only = none
  counted : l.counted = false
  otherwise : l.otherwise = []

section
variable {g : Engine} {x : String} {c : Context} {scope : Scope} {way : Way} {o k : Nat} {w v : Value}

theorem Gives.not_around (h : Gives scope x) : ∀ p ∈ scope.starts, p.2 ≠ .around := by
  intro p hp
  rcases h.others p hp with hp | rfl
  · simp [hp]
  · simp

theorem yields_give (hx : Gives scope x) : Yields (assign s.frames.size v (.name x)) g
    ((s.within way (loopFrame c scope o w)).saying ts) () ((s.within way
      { loopFrame c scope o w with names := Assoc.set (loopFrame c scope o w).names x v }).saying ts) := by
  have hu : (loopFrame c scope o w).names.lookup x = some w := by
    rw [loopFrame, lookup_startNames, hx.given]
    rfl
  have hf : ((s.within way (loopFrame c scope o w)).saying ts).frames[s.frames.size]? =
      some (loopFrame c scope o w) := Array.getElem?_push_size
  have := yields_setName (g := g) hf hu v
  rw [within_frame] at this
  rwa [assign]

theorem yields_restart (hx : Gives scope x) (hc : s.contexts[k]? = some c) :
    Yields (start k s.frames.size scope) g ((s.within way
        { loopFrame c scope o w with names := Assoc.set (loopFrame c scope o w).names x v }).saying ts)
      () ((s.within way (loopFrame c scope o v)).saying ts) := by
  have hgiven : ∀ p ∈ scope.starts, p.2 = .given →
      ((Assoc.set (loopFrame c scope o w).names x v).lookup p.1).getD .missing = v := by
    intro p hp hgiven
    rcases hx.others p hp with hp | rfl
    · rw [hgiven] at hp
      cases hp
    · rw [Assoc.lookup_set_self]
      rfl
  have hf : ((s.within way { loopFrame c scope o w with
      names := Assoc.set (loopFrame c scope o w).names x v }).saying ts).frames[s.frames.size]? =
      some { loopFrame c scope o w with names := Assoc.set (loopFrame c scope o w).names x v } :=
    Array.getElem?_push_size
  have := yields_start (g := g) (fun _ => v) hf hc hx.not_around hgiven
  rwa [within_frame] at this

end

section
variable (s : Store) (c : Context) (scope : Scope) (o n : Nat) (vs : List Value) (ts : List String)
  (text : Value → List String)

def itemBefore (i : Nat) : Value := (vs.take i).getLast?.getD .missing

/-- The store before a round of a loop over a list that puts out texts for each item. -/
def storeBefore (i : Nat) : Store :=
  (s.within (.list n i) (loopFrame c scope o (itemBefore vs i))).saying (ts ++ (vs.take i).flatMap text)

/-- What is put out grows by the texts of one item in each round. -/
theorem storeBefore_succ {i : Nat} (hi : i < vs.length) : storeBefore s c scope o n vs ts text (i + 1) =
    (s.within (.list n (i + 1)) (loopFrame c scope o vs[i])).saying
      (ts ++ (vs.take i).flatMap text ++ text vs[i]) := by
  have hitem : itemBefore vs (i + 1) = vs[i] := by
    rw [itemBefore, List.take_succ_eq_append_getElem hi, List.getLast?_concat]
    rfl
  rw [storeBefore, hitem, List.take_succ_eq_append_getElem hi, List.flatMap_append,
    List.flatMap_singleton, List.append_assoc]

end

section
variable {g : Engine} {c : Context} {scope : Scope} {o i : Nat} {text : Value → List String}

theorem yields_next (hn : s.cells[n]? = some (.list vs.toArray)) (hi : i < vs.length) :
    Yields (step s.cells.size) g (storeBefore s c scope o n vs ts text i) (some vs[i])
      ((s.within (.list n (i + 1)) (loopFrame c scope o (itemBefore vs i))).saying
        (ts ++ (vs.take i).flatMap text)) := by
  have := yields_step (g := g) (s := storeBefore s c scope o n vs ts text i) Array.getElem?_push_size
    (getElem?_push_of_some hn _) (List.getElem?_eq_getElem hi)
  rwa [storeBefore, within_walk] at this

theorem yields_next_none (hn : s.cells[n]? = some (.list vs.toArray)) :
    Yields (step s.cells.size) g (storeBefore s c scope o n vs ts text vs.length) none
      ((s.within .done (loopFrame c scope o (itemBefore vs vs.length))).saying
        (ts ++ vs.flatMap text)) := by
  have := yields_step_none (g := g) (s := storeBefore s c scope o n vs ts text vs.length)
    Array.getElem?_push_size (getElem?_push_of_some hn _) (List.getElem?_eq_none (Nat.le_refl _))
  rw [storeBefore, within_walk, List.take_length] at this
  rwa [storeBefore, List.take_length]

theorem yields_enterLoop (vs : List Value) (ts : List String) (text : Value → List String) {env : Env}
    (hc : s.contexts[env.context]? = some c) (hscope : ∀ p ∈ scope.starts, p.2 ≠ .around) :
    Yields (enterWithin env scope) g { s.saying ts with cells := s.cells.push (.walk (.list n 0)) }
      { env with frame := s.frames.size, top := false }
      (storeBefore s c scope env.frame n vs ts text 0) := by
  have hstore : storeBefore s c scope env.frame n vs ts text 0 =
      (s.within (.list n 0) (loopFrame c scope env.frame .missing)).saying ts := by
    change Store.saying _ (ts ++ []) = _
    rw [List.append_nil]
    rfl
  rw [hstore]
  exact yields_enter (s := { s.saying ts with cells := s.cells.push (.walk (.list n 0)) }) hc hscope

theorem yields_leaveLoop (env : Env) {way : Way} {f : Frame} {ts : List String} :
    Yields (leave { env with frame := s.frames.size, top := false }) g ((s.within way f).saying ts) ()
      ((s.within way f.left).saying ts) := by
  have := yields_leave (g := g) (s := (s.within way f).saying ts)
    { env with frame := s.frames.size, top := false } Array.getElem?_push_size
  rwa [within_frame] at this

end

theorem yields_runLoop {l : Nested} {x : String} {c : Context} {outer : String → Bool}
    {text : Value → List String} {depth : Nat} (hl : l.Plain x)
    (hn : s.cells[n]? = some (.list vs.toArray)) (hc : s.contexts[l.env.context]? = some c)
    (hdeclares : Yields (declares l.env) (Engine.ofFuel folder rounds (fuel + 1)) (s.saying ts) outer
      (s.saying ts))
    (hx : Gives (Scope.ofLoop outer l.target false l.body) x)
    (hbody : ∀ way, ∀ v ∈ vs, ∀ ts,
      Yields (parts { l.env with frame := s.frames.size, top := false } l.body)
        (Engine.ofFuel folder rounds (fuel + 1))
        ((s.within way (loopFrame c (Scope.ofLoop outer l.target false l.body) l.env.frame v)).saying ts) ()
        ((s.within way (loopFrame c (Scope.ofLoop outer l.target false l.body) l.env.frame v)).saying
          (ts ++ text v)))
    (hrounds : vs.length < rounds) :
    ∃ f, Yields (runLoop l (.list n) depth) (Engine.ofFuel folder rounds (fuel + 1)) (s.saying ts) ()
      ((s.within .done f).saying (ts ++ vs.flatMap text)) := by
  let scope := Scope.ofLoop outer l.target false l.body
  let frameOf (v : Value) : Frame := loopFrame c scope l.env.frame v
  have hwalk : Yields (walkOf (.list n)) (Engine.ofFuel folder rounds (fuel + 1)) (s.saying ts)
      s.cells.size { s.saying ts with cells := s.cells.push (.walk (.list n 0)) } := rfl
  have hgive (way : Way) (w v : Value) (ts : List String) :
      Yields (assign s.frames.size v l.target) (Engine.ofFuel folder rounds (fuel + 1))
        ((s.within way (frameOf w)).saying ts) () ((s.within way
          { frameOf w with names := Assoc.set (frameOf w).names x v }).saying ts) := by
    rw [hl.target]
    exact yields_give hx
  refine ⟨(frameOf (itemBefore vs vs.length)).left, ?_⟩
  rw [runLoop]
  refine hdeclares.bind ?_
  simp only [hl.only, hl.counted, hl.otherwise]
  have henter := yields_enterLoop (g := Engine.ofFuel folder rounds (fuel + 1)) (n := n) vs ts text hc
    hx.not_around
  refine (Yields.pure (Value.list n)).bind (hwalk.bind (henter.bind ?_))
  rw [if_neg Bool.false_ne_true]
  refine (Yields.pure s.cells.size).bind (Yields.bind (a := decide (0 < vs.length)) (t :=
    (s.within .done (frameOf (itemBefore vs vs.length))).saying (ts ++ vs.flatMap text)) ?_ ?_)
  · refine Yields.untilDone (n := vs.length) (fun i => decide (0 < i))
      (storeBefore s c scope l.env.frame n vs ts text) ?_ ?_ hrounds
    · -- A round: the next item, which its name is given, the other names anew, and the body.
      intro i hi
      have hnext : Yields (next s.cells.size) (Engine.ofFuel folder rounds (fuel + 1))
        (storeBefore s c scope l.env.frame n vs ts text i) _ _ := yields_next hn hi
      refine hnext.bind ?_
      dsimp only
      rw [storeBefore_succ s c scope l.env.frame n vs ts text hi]
      exact (hgive _ _ _ _).bind ((yields_restart hx hc).bind
        (Yields.bind (hbody _ _ (List.getElem_mem hi) _) (.pure _)))
    · have hnext : Yields (next s.cells.size) (Engine.ofFuel folder rounds (fuel + 1))
        (storeBefore s c scope l.env.frame n vs ts text vs.length) _ _ := yields_next_none hn
      exact hnext.bind (.pure _)
  · refine (yields_leaveLoop l.env).bind ?_
    rw [if_neg (by simp)]
    exact .pure ()

end SchemaWrappers.Template
