import SchemaWrappers.Proofs.Template.Yields

namespace SchemaWrappers.Template
open Eval

variable {g : Engine} {s : Store} {i j n : Nat} {f : Frame} {c : Context} {name : String} {v : Value}

theorem yields_frame (hf : s.frames[i]? = some f) : Yields (frame i) g s f s := by
  change Inquiry.done (Except.ok (s.frames[i]?.getD _), s) = _
  rw [hf]
  rfl

theorem yields_context (hc : s.contexts[n]? = some c) : Yields (context n) g s c s := by
  change Inquiry.done (Except.ok (s.contexts[n]?.getD _), s) = _
  rw [hc]
  rfl

theorem yields_cell {k : Cell} (hk : s.cells[n]? = some k) : Yields (cell n) g s k s := by
  change Inquiry.done (Except.ok (s.cells[n]?.getD _), s) = _
  rw [hk]
  rfl

theorem yields_items {vs : Array Value} (hn : s.cells[n]? = some (.list vs)) :
    Yields (items n) g s vs s := (yields_cell hn).bind (.pure vs)

section
variable {fuel : Nat}

theorem yields_declaring_here (hf : s.frames[i]? = some f) (hv : f.names.lookup name = some v) :
    Yields (declaring name (fuel + 1) i) g s (some i) s := by
  rw [declaring]
  refine (yields_frame hf).bind ?_
  rw [hv]
  exact .pure _

theorem yields_declaring_around {found : Option Nat} (hf : s.frames[i]? = some f)
    (hv : f.names.lookup name = none) (ho : f.outer = some j)
    (h : Yields (declaring name fuel j) g s found s) :
    Yields (declaring name (fuel + 1) i) g s found s := by
  rw [declaring]
  refine (yields_frame hf).bind ?_
  rw [hv, ho]
  exact h

/-- A name stands for what the body itself declares. -/
theorem yields_local?_here (hf : s.frames[i]? = some f) (hv : f.names.lookup name = some v) :
    Yields (local? i name) g s (some v) s := by
  have hdeclaring : Yields (declaring? i name) g s (some i) s :=
    Yields.get.bind (yields_declaring_here hf hv)
  refine hdeclaring.bind ((yields_frame hf).bind ?_)
  rw [hv]
  exact .pure _

/-- A name that a body does not declare stands for what the body around it declares. -/
theorem yields_local?_around {f' : Frame} (hf : s.frames[i]? = some f)
    (hnone : f.names.lookup name = none) (ho : f.outer = some j) (hf' : s.frames[j]? = some f')
    (hv : f'.names.lookup name = some v) : Yields (local? i name) g s (some v) s := by
  have hsize : ∃ k, s.frames.size = k + 1 :=
    Nat.exists_eq_succ_of_ne_zero (Nat.ne_zero_of_lt (Array.getElem?_eq_some_iff.mp hf).1)
  obtain ⟨k, hk⟩ := hsize
  have hdeclaring : Yields (declaring? i name) g s (some j) s := by
    refine Yields.get.bind ?_
    rw [hk]
    exact yields_declaring_around hf hnone ho (yields_declaring_here hf' hv)
  refine hdeclaring.bind ((yields_frame hf').bind ?_)
  rw [hv]
  exact .pure _

end

/-- A name that has a value is worked out as that value. -/
theorem yields_named {env : Env} (h : Yields (local? env.frame name) g s (some v) s)
    (hv : v ≠ .missing) : Yields (named env name) g s v s := by
  refine h.bind ?_
  cases v with
  | missing => exact absurd rfl hv
  | _ => exact .pure _

theorem yields_setName (hf : s.frames[i]? = some f) (hv : f.names.lookup name = some v) (w : Value) :
    Yields (setName i name w) g s () { s with
      frames := s.frames.setIfInBounds i { f with names := Assoc.set f.names name w } } := by
  have hdeclaring : Yields (declaring? i name) g s (some i) s :=
    Yields.get.bind (yields_declaring_here hf hv)
  exact hdeclaring.bind ((yields_frame hf).bind (.modified _))

def Context.value (c : Context) (name : String) : Value :=
  ((c.set.lookup name).or (c.fixed.lookup name)).getD .missing

theorem yields_fromContext (hc : s.contexts[n]? = some c) :
    Yields (fromContext n name) g s (c.value name) s := (yields_context hc).bind (.pure _)

/-- What a name of a body starts with, if `given` tells the values of those that it is given; none is
copied from around. -/
def startValue (c : Context) (given : String → Value) (p : String × Start) : Value :=
  match p.2 with
  | .given => given p.1
  | .context => c.value p.1
  | .around | .unset => .missing

def startNames (c : Context) (given : String → Value) (scope : Scope) : List (String × Value) :=
  scope.starts.map fun p => (p.1, startValue c given p)

theorem lookup_map {α β : Type} (ps : List (String × α)) (h : String × α → β) (name : String) :
    (ps.map fun p => (p.1, h p)).lookup name = (ps.lookup name).map fun a => h (name, a) := by
  induction ps with
  | nil => rfl
  | cons p ps ih =>
    rw [List.map_cons, List.lookup_cons, List.lookup_cons, ih]
    cases hp : name == p.1 with
    | true => rw [beq_iff_eq.mp hp, Option.map_some]
    | false => rfl

theorem lookup_startNames (c : Context) (given : String → Value) (scope : Scope) (name : String) :
    (startNames c given scope).lookup name =
      (scope.starts.lookup name).map fun start => startValue c given (name, start) :=
  lookup_map ..

theorem yields_start {scope : Scope} (given : String → Value) (hf : s.frames[i]? = some f)
    (hc : s.contexts[n]? = some c) (hscope : ∀ p ∈ scope.starts, p.2 ≠ .around)
    (hgiven : ∀ p ∈ scope.starts, p.2 = .given → (f.names.lookup p.1).getD .missing = given p.1) :
    Yields (start n i scope) g s () { s with
      frames := s.frames.setIfInBounds i { f with names := startNames c given scope } } := by
  refine (yields_frame hf).bind (Yields.bind (Yields.mapM fun p hp => ?_) (.modified _))
  have hvalue := hgiven p hp
  have hstart := hscope p hp
  obtain ⟨name, from_⟩ := p
  cases from_ with
  | given =>
    dsimp only at hvalue ⊢
    rw [hvalue rfl]
    exact .pure _
  | context =>
    dsimp only
    exact (yields_fromContext hc).bind (.pure _)
  | around => exact absurd rfl hstart
  | unset => exact .pure _

/-- A body is entered with the values of its names; those that it is given have none yet. -/
theorem yields_enter {env : Env} {scope : Scope} {outer : Option Nat}
    (hc : s.contexts[env.context]? = some c) (hscope : ∀ p ∈ scope.starts, p.2 ≠ .around) :
    Yields (enter env scope outer) g s { env with frame := s.frames.size, top := false } { s with
      frames := s.frames.push ⟨startNames c (fun _ => .missing) scope, scope.stores, outer⟩ } := by
  have hadd : Yields (addFrame ⟨scope.starts.map fun p => (p.1, .missing), scope.stores, outer⟩) g s
      s.frames.size { s with
        frames := s.frames.push ⟨scope.starts.map fun p => (p.1, .missing), scope.stores, outer⟩ } := rfl
  refine hadd.bind (Yields.bind (yields_start (fun _ => .missing) Array.getElem?_push_size hc
    hscope fun p _ _ => ?_) ?_)
  · rw [lookup_map _ fun _ => Value.missing]
    cases scope.starts.lookup p.1 <;> rfl
  · rw [setIfInBounds_push_size]
    exact .pure _

def Frame.left (f : Frame) : Frame := { f with names := f.names.map fun p => (p.1, .missing) }

theorem yields_leave (env : Env) (hf : s.frames[env.frame]? = some f) :
    Yields (leave env) g s () { s with frames := s.frames.setIfInBounds env.frame f.left } :=
  (yields_frame hf).bind (.modified _)

theorem yields_declares {env : Env} (hf : s.frames[env.frame]? = some f) (ho : f.outer = none) :
    Yields (declares env) g s (f.names.map (·.1)).contains s := by
  have hnames : Yields (declaredFrom (s.frames.size + 1) env.frame) g s (f.names.map (·.1)) s := by
    rw [declaredFrom]
    refine (yields_frame hf).bind ?_
    rw [ho]
    exact .pure _
  exact Yields.get.bind (hnames.bind (.pure _))

/-- The value that a name is given is the one that it has then. -/
theorem Assoc.lookup_set_self {α : Type} (ps : List (String × α)) (n : String) (a : α) :
    (Assoc.set ps n a).lookup n = some a := by
  rw [Assoc.set]
  split
  · rename_i h
    induction ps with
    | nil => cases h
    | cons p ps ih =>
      rw [List.map_cons]
      by_cases hp : p.1 = n
      · simp [hp]
      · have hrest : (ps.any fun q => q.1 == n) = true := by simpa [hp] using h
        have hne : (n == p.1) = false := beq_false_of_ne (Ne.symm hp)
        rw [if_neg (by simpa using hp), List.lookup_cons, hne]
        exact ih hrest
  · rename_i h
    rw [List.lookup_append, List.lookup_eq_none_iff.mpr, Option.none_or, List.lookup_cons_self]
    intro p hp
    rw [bne_iff_ne]
    rintro rfl
    exact h (List.any_eq_true.mpr ⟨p, hp, beq_self_eq_true _⟩)

end SchemaWrappers.Template
