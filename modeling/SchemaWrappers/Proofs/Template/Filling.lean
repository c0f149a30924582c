import SchemaWrappers.Proofs.Template.Checking
import SchemaWrappers.Proofs.Template.Loops

/-! Filling in sheets: what stands before the loop comes once, and what the loop encloses once for
each item. -/
namespace SchemaWrappers.Template
open Eval

/-- The text that a slot puts in, if its owner stands for a value: that of the value itself, or that of
a field of it. -/
def Slot.shows (l : Slot) (v : Value) : Option String :=
  match v, l.field with
  | .text t false, none => some t
  | .stub m, some f => List.lookup f [("name", m.name), ("comment", m.comment), ("params", m.params)]
  | _, _ => none

@[simp]
theorem Slot.shows_plain (front : List Char) (owner t : String) :
    (⟨front, owner, none⟩ : Slot).shows (.plain t) = some t := rfl

@[simp]
theorem Slot.shows_stub (front : List Char) (owner f : String) (m : Stub) :
    (⟨front, owner, some f⟩ : Slot).shows (.stub m) =
      List.lookup f [("name", m.name), ("comment", m.comment), ("params", m.params)] := rfl

/-- The text that a slot puts in, if `value` tells what names stand for. -/
def Slot.shown (value : String → Value) (l : Slot) : String := (l.shows (value l.owner)).getD ""

def Row.Shows (r : Row) (value : String → Value) : Prop :=
  ∀ l ∈ r.slots, (l.shows (value l.owner)).isSome = true

theorem Row.Shows.eq_some {r : Row} {value : String → Value} (h : r.Shows value) {l : Slot}
    (hl : l ∈ r.slots) : l.shows (value l.owner) = some (l.shown value) := by
  obtain ⟨u, hu⟩ := Option.isSome_iff_exists.mp (h l hl)
  rw [Slot.shown, hu, Option.getD_some]

def Sheet.inLoop (t : Sheet) (value : String → Value) (v : Value) (name : String) : Value :=
  if name = t.item then v else value name

/-- What a sheet needs of what names stand for: its source is a list, of which the items are `vs`, and
its slots put in texts. -/
structure Sheet.Served (t : Sheet) (value : String → Value) (n : Nat) (vs : List Value) : Prop where
  source : value t.source = .list n
  head : t.head.Shows value
  body : ∀ v ∈ vs, t.body.Shows (t.inLoop value v)

/-- What a sheet puts out: what stands before its loop, and what the loop encloses for each item. -/
def Sheet.texts (t : Sheet) (value : String → Value) (vs : List Value) : List String :=
  t.head.texts (Slot.shown value) ++ vs.flatMap fun v => t.body.texts (Slot.shown (t.inLoop value v))

variable {s : Store} {env : Env} {c : Context} {scope : Scope} {folder name : String}
  {rounds levels fuel n k : Nat} {vs : List Value}

theorem standsFor_slot {l : Slot} {v : Value} {t : String} (h : l.shows v = some t)
    (hv : ∀ g ts, Yields (local? env.frame l.owner) g (s.saying ts) (some v) (s.saying ts)) :
    StandsFor (Engine.ofFuel folder rounds (fuel + 2)) env s l.expr t := by
  intro ts
  rw [Slot.shows.eq_def] at h
  split at h
  · rename_i u hf
    cases h
    rw [Slot.expr_of_none hf]
    exact yields_named (hv (Engine.ofFuel folder rounds (fuel + 1)) ts) Value.noConfusion
  · rename_i m f hf
    rw [Slot.expr_of_some hf]
    have howner : Yields (expr env (.name l.owner)) (Engine.ofFuel folder rounds (fuel + 1))
      (s.saying ts) (.stub m) (s.saying ts) := yields_named (hv _ ts) Value.noConfusion
    have hfield (g : Engine) :
        Yields (fieldOf (.stub m) f) g (s.saying ts) (some (.plain t)) (s.saying ts) := by
      rw [fieldOf, h]
      exact .pure _
    have hown (g : Engine) : Yields (own? (.stub m) f) g (s.saying ts) (some (.plain t)) (s.saying ts) :=
      (hfield g).bind (.pure _)
    exact howner.bind ((hown _).bind (.pure _))
  · cases h

/-- The frame of a template: each of its names stands for what it stands for in the context. -/
def rootFrame (c : Context) (scope : Scope) : Frame :=
  ⟨startNames c (fun _ => .missing) scope, scope.stores, none⟩

section
variable {g : Engine} {o x : String}

theorem lookup_of_declares (c : Context) (given : String → Value) (ho : scope.declares o = true) :
    ∃ start, (o, start) ∈ scope.starts ∧
      (startNames c given scope).lookup o = some (startValue c given (o, start)) := by
  obtain ⟨start, hstart⟩ := Option.isSome_iff_exists.mp ho
  obtain ⟨before, after, hsplit, -⟩ := List.lookup_eq_some_iff.mp hstart
  refine ⟨start, ?_, ?_⟩
  · rw [hsplit]
    exact List.mem_append_right _ (List.mem_cons_self ..)
  · rw [lookup_startNames, hstart]
    rfl

theorem lookup_rootFrame (hscope : ∀ p ∈ scope.starts, p.2 = .context) (ho : scope.declares o = true) :
    (rootFrame c scope).names.lookup o = some (c.value o) := by
  obtain ⟨start, hstart, hvalue⟩ := lookup_of_declares c (fun _ => .missing) ho
  obtain rfl : start = .context := hscope _ hstart
  exact hvalue

/-- Within a loop, its name stands for the item, and all others for what they stand for in the
context. -/
theorem lookup_loopFrame {i : Nat} {v : Value} (hx : Gives scope x) (ho : scope.declares o = true) :
    (loopFrame c scope i v).names.lookup o = some (if o = x then v else c.value o) := by
  rw [loopFrame]
  split
  · rename_i heq
    rw [heq, lookup_startNames, hx.given]
    rfl
  · rename_i hne
    obtain ⟨start, hstart, hvalue⟩ := lookup_of_declares c (fun _ => v) ho
    rcases hx.others _ hstart with rfl | heq
    · exact hvalue
    · cases heq
      exact absurd rfl hne

end

theorem yields_fillOutput {g : Engine} {ts : List String} {r : Row} {fill : Slot → String}
    (hguard : env.guarded = false) (hescape : env.escape = false) (hvaries : env.varies = false)
    (hrow : ∀ l ∈ r.slots, StandsFor g env s l.expr (fill l)) :
    Yields (fillPart env (.output r.items)) g (s.saying ts) () (s.saying (ts ++ r.texts fill)) := by
  have hkept : Yields (isDropped env) g (s.saying ts) false (s.saying ts) := by
    rw [isDropped, hguard]
    exact .pure _
  exact hkept.bind (yields_row _ hescape hvaries hrow)

theorem yields_fillJoined {g : Engine} {ts : List String} {r : Row} {ps : List Part}
    {fill : Slot → String} {s' : Store} (hguard : env.guarded = false) (hescape : env.escape = false)
    (hvaries : env.varies = false) (hrow : ∀ l ∈ r.slots, StandsFor g env s l.expr (fill l))
    (hps : Yields (fillParts env ps) g (s.saying (ts ++ r.texts fill)) () s') :
    Yields (fillParts env (Reader.joinOutputs r.items ps)) g (s.saying ts) () s' := by
  rw [Reader.joinOutputs]
  split
  · rename_i h
    have hnone := yields_row ts hescape hvaries hrow
    rw [List.isEmpty_iff.mp h] at hnone
    exact Yields.bind (f := fun _ => fillParts env ps) hnone hps
  · exact (yields_fillOutput hguard hescape hvaries hrow).forM_cons hps

/-- At the root of a template, no texts are escaped and none are dropped, and all names stand for what
they stand for in the context. -/
structure AtRoot (env : Env) (s : Store) (c : Context) (scope : Scope) : Prop where
  guarded : env.guarded = false
  escape : env.escape = false
  varies : env.varies = false
  context : s.contexts[env.context]? = some c
  frame : s.frames[env.frame]? = some (rootFrame c scope)
  scope : ∀ p ∈ scope.starts, p.2 = .context

namespace AtRoot
variable {g : Engine} {o : String}

theorem yields_local? (h : AtRoot env s c scope) (ho : scope.declares o = true) (ts : List String) :
    Yields (local? env.frame o) g (s.saying ts) (some (c.value o)) (s.saying ts) :=
  yields_local?_here (s := s.saying ts) h.frame (lookup_rootFrame h.scope ho)

/-- The names that a template declares. -/
theorem yields_declares (h : AtRoot env s c scope) (ts : List String) :
    Yields (declares env) g (s.saying ts) scope.declares (s.saying ts) := by
  have : Yields (declares env) g (s.saying ts) _ (s.saying ts) := Template.yields_declares h.frame rfl
  have hnames : ((rootFrame c scope).names.map (·.1)).contains = scope.declares := by
    funext o
    rw [rootFrame, startNames, List.map_map]
    exact scope.contains_starts o
  rwa [hnames] at this

/-- In a loop at the root, a name that the loop or the template declares stands for the item or for
what it stands for in the context. -/
theorem yields_local?_loop {x : String} {inner : Scope} {way : Way} {v : Value} (h : AtRoot env s c scope)
    (hx : Gives inner x) (ho : inner.declares o = true ∨ scope.declares o = true) (ts : List String) :
    Yields (local? s.frames.size o) g ((s.within way (loopFrame c inner env.frame v)).saying ts)
      (some (if o = x then v else c.value o))
      ((s.within way (loopFrame c inner env.frame v)).saying ts) := by
  have hloop : ((s.within way (loopFrame c inner env.frame v)).saying ts).frames[s.frames.size]? =
      some (loopFrame c inner env.frame v) := Array.getElem?_push_size
  cases hinner : inner.declares o with
  | true => exact yields_local?_here hloop (lookup_loopFrame hx hinner)
  | false =>
    have hne : o ≠ x := by
      rintro rfl
      rw [Scope.declares, hx.given] at hinner
      cases hinner
    have hnone : (loopFrame c inner env.frame v).names.lookup o = none := by
      rw [loopFrame, lookup_startNames, Option.map_eq_none_iff]
      exact Option.isSome_eq_false_iff.mp hinner |> Option.isNone_iff_eq_none.mp
    have hroot : ((s.within way (loopFrame c inner env.frame v)).saying ts).frames[env.frame]? =
        some (rootFrame c scope) := getElem?_push_of_some h.frame _
    rw [hinner] at ho
    rw [if_neg hne]
    exact yields_local?_around hloop hnone rfl hroot
      (lookup_rootFrame h.scope (ho.resolve_left Bool.false_ne_true))

end AtRoot

/-- A template that gives no value to a name at its root is filled in once, as its parts are, and extends
no other template. -/
theorem yields_runOnce_of {ps : List Part} {ts : List String} (folder name : String)
    (hc : s.contexts[k]? = some c) (hcontext : ∀ p ∈ (Scope.ofRoot ["self"] ps).starts, p.2 = .context)
    (hstores : (Scope.ofRoot ["self"] ps).stores = [])
    (hfill : ∀ env s₁, AtRoot env s₁ c (Scope.ofRoot ["self"] ps) → s₁.cells = s.cells →
      ∃ s' : Store, Yields (fillParts env ps) (Engine.ofFuel folder rounds fuel) (s₁.saying []) ()
        (s'.saying ts) ∧ s'.extended = s₁.extended) :
    ∃ s' : Store, Yields (runOnce ⟨name, ps, [], false⟩ k) (Engine.ofFuel folder rounds (fuel + 1))
      (s.saying []) none (s'.saying ts) := by
  let scope := Scope.ofRoot ["self"] ps
  let s₁ : Store :=
    { s with extended := s.extended.push none, frames := s.frames.push (rootFrame c scope) }
  let env : Env :=
    { frame := s.frames.size, context := k, template := name, top := true, run := s.extended.size }
  have hroot : AtRoot env s₁ c scope := ⟨rfl, rfl, rfl, hc, Array.getElem?_push_size, hcontext⟩
  have henter : Yields (enter { frame := 0, context := k, template := name } scope none)
      (Engine.ofFuel folder rounds (fuel + 1))
      ({ s with extended := s.extended.push none }.saying []) { env with top := false, run := 0 }
      (s₁.saying []) :=
    yields_enter hc fun p hp => by simp [hcontext p hp]
  obtain ⟨s', hf, hsame⟩ := hfill env s₁ hroot rfl
  refine ⟨s', ?_⟩
  have hself : scope.stores.contains "self" = false := by
    rw [show scope.stores = [] from hstores]
    rfl
  refine Yields.get.bind ((Yields.modified _).bind (henter.bind ?_))
  rw [if_neg (by rw [hself]; exact Bool.false_ne_true)]
  have hextended : Yields (extended s.extended.size) (Engine.ofFuel folder rounds (fuel + 1))
      (s'.saying ts) none (s'.saying ts) := by
    change Inquiry.done (Except.ok ((s'.extended[s.extended.size]?).getD none), _) = _
    rw [hsame, Array.getElem?_push_size]
    rfl
  exact Yields.bind (a := ()) hf hextended

theorem gives_loop (t : Sheet) (outer : String → Bool) :
    Gives (Scope.ofLoop outer (.name t.item) false t.inside) t.item := by
  have hread := t.hasRead_loop outer
  constructor
  · obtain ⟨more, hmore⟩ := hread.before
    rw [← hmore]
    exact List.lookup_cons_self
  · intro p hp
    exact (hread.new p hp).symm.imp_right List.mem_singleton.mp

theorem yields_fillLoop (folder : String) (fuel : Nat) (ts : List String) {t : Sheet} (ht : t.Apart)
    (h : AtRoot env s c (Scope.ofRoot ["self"] t.parts)) (hn : s.cells[n]? = some (.list vs.toArray))
    (hserved : t.Served c.value n vs) (hrounds : vs.length < rounds) :
    ∃ f, Yields (fillPart env t.loop) (Engine.ofFuel folder rounds (fuel + 3)) (s.saying ts) ()
      ((s.within .done f).saying
        (ts ++ vs.flatMap fun v => t.body.texts (Slot.shown (t.inLoop c.value v)))) := by
  let root := Scope.ofRoot ["self"] t.parts
  let scope := Scope.ofLoop root.declares (.name t.item) false t.inside
  have hx : Gives scope t.item := gives_loop t _
  have hlist : Yields (expr env (.name t.source)) (Engine.ofFuel folder rounds (fuel + 3)) (s.saying ts)
      (.list n) (s.saying ts) := by
    have hdeclares := ht.declares_root (n := t.source) (by simp [Sheet.owners])
    have := h.yields_local? (g := Engine.ofFuel folder rounds (fuel + 2)) hdeclares ts
    rw [hserved.source] at this
    exact yields_named this Value.noConfusion
  have hitem (way : Way) (v : Value) (hv : v ∈ vs) (l : Slot) (hl : l ∈ t.body.slots) :
      StandsFor (Engine.ofFuel folder rounds (fuel + 2)) { env with frame := s.frames.size, top := false }
        (s.within way (loopFrame c scope env.frame v)) l.expr (l.shown (t.inLoop c.value v)) := by
    refine standsFor_slot ((hserved.body v hv).eq_some hl) fun g ts => h.yields_local?_loop hx ?_ ts
    exact (t.hasRead_loop root.declares).seen _ (List.mem_map_of_mem hl)
  let l : Nested := ⟨.name t.item, none, t.inside, [], false, false, env⟩
  have hrun : ∃ f, Yields (runLoop l (.list n) 0) (Engine.ofFuel folder rounds (fuel + 3)) (s.saying ts) ()
      ((s.within .done f).saying
        (ts ++ vs.flatMap fun v => t.body.texts (Slot.shown (t.inLoop c.value v)))) := by
    refine yields_runLoop ⟨rfl, rfl, rfl, rfl⟩ hn h.context (h.yields_declares ts) hx ?_ hrounds
    intro way v hv ts
    exact yields_fillJoined h.guarded h.escape h.varies (hitem way v hv) (.pure ())
  obtain ⟨f, hf⟩ := hrun
  refine ⟨f, ?_⟩
  rw [Sheet.loop, fillPart, ht.countsItself_inside]
  exact hlist.bind hf

section
variable {t : Sheet}

theorem yields_fillSheet (folder : String) (fuel : Nat) (ht : t.Apart)
    (h : AtRoot env s c (Scope.ofRoot ["self"] t.parts)) (hn : s.cells[n]? = some (.list vs.toArray))
    (hserved : t.Served c.value n vs) (hrounds : vs.length < rounds) :
    ∃ f, Yields (fillParts env t.parts) (Engine.ofFuel folder rounds (fuel + 3)) (s.saying []) ()
      ((s.within .done f).saying (t.texts c.value vs)) := by
  obtain ⟨f, hf⟩ := yields_fillLoop folder fuel (t.head.texts (Slot.shown c.value)) ht h hn hserved
    hrounds
  refine ⟨f, yields_fillJoined h.guarded h.escape h.varies (fun l hl => ?_) (hf.forM_cons (.pure ()))⟩
  refine standsFor_slot (hserved.head.eq_some hl) fun g ts => h.yields_local? (ht.declares_root ?_) ts
  exact List.mem_append_left _ (List.mem_map_of_mem hl)

/-- A sheet is filled in once, and extends no other template. -/
theorem yields_runOnce (folder name : String) (fuel : Nat) (ht : t.Apart) (hc : s.contexts[k]? = some c)
    (hn : s.cells[n]? = some (.list vs.toArray)) (hserved : t.Served c.value n vs)
    (hrounds : vs.length < rounds) :
    ∃ s' : Store, Yields (runOnce ⟨name, t.parts, [], false⟩ k) (Engine.ofFuel folder rounds (fuel + 4))
      (s.saying []) none (s'.saying (t.texts c.value vs)) := by
  refine yields_runOnce_of folder name hc ht.context_root ht.hasRead_root.stores ?_
  intro env s₁ hroot hcells
  obtain ⟨f, hf⟩ := yields_fillSheet folder fuel ht hroot (hcells ▸ hn) hserved hrounds
  exact ⟨_, hf, rfl⟩

theorem yields_captured {g : Engine} {run : Eval Unit} {ts : List String} {s' : Store}
    (h : Yields run g ({ s with held := s.out :: s.held }.saying []) () (s'.saying ts)) :
    ∃ s'', Yields (captured run) g s (ts.map Value.plain).toArray s'' :=
  ⟨_, (Yields.modified _).bind (h.bind (Yields.get.bind ((Yields.modified _).bind (.pure _))))⟩

/-- A text that is read as a sheet is ready as it is read. -/
theorem yields_readied {g : Engine} {written : String} (hfit : t.Fit) (ht : t.Apart)
    (hwritten : Written written.toList t.tokens) (hlevels : leastLevels ≤ g.levels) :
    Yields (readied name written) g s ⟨name, t.parts, [], false⟩ s := by
  rw [readied]
  refine Yields.engine.bind ?_
  rw [readAll_sheet hfit hwritten hlevels]
  exact yields_checkTemplate ht ..

/-- What names stand for in a template that is filled in with `all`. -/
def standing (all : List (String × Value)) (name : String) : Value :=
  ((all.foldl (fun all p => Assoc.set all p.1 p.2) everywhere).lookup name).getD .missing

/-- A text that is ready as parts is filled in with names as these parts are, once. -/
theorem filling_of {ps : List Part} {ts : List String} {written : String} {size : Nat}
    {names : Eval (List (String × Value))} {all : List (String × Value)} {cells : Array Cell}
    (hready : ∀ g : Engine, leastLevels ≤ g.levels →
      Yields (readied name written) g Store.blank ⟨name, ps, [], false⟩ Store.blank)
    (hnames : ∀ g, Yields names g Store.blank all { Store.blank with cells })
    (hrun : ∀ (s : Store) (c : Context) (k : Nat), s.contexts[k]? = some c → c.value = standing all →
      s.cells = cells → ∃ s' : Store, Yields (runOnce ⟨name, ps, [], false⟩ k)
        (Engine.ofFuel folder (Engine.manyRounds + size) (levels + leastLevels)) (s.saying []) none
        (s'.saying ts)) :
    filling folder levels name written size names = .done (.ok (String.join ts)) := by
  let g := Engine.ofFuel folder (Engine.manyRounds + size) (levels + leastLevels)
  let fixed := all.foldl (fun all p => Assoc.set all p.1 p.2) everywhere
  let c : Context := { template := name, fixed, escape := 2 }
  let s : Store :=
    { Store.blank with
      cells, contexts := Store.blank.contexts.push c, escapes := Store.blank.escapes.push false }
  have hcontext : Yields (newContext ⟨name, ps, [], false⟩ fixed) g { Store.blank with cells } 2 s := rfl
  obtain ⟨s', hs'⟩ := hrun { s with held := s.out :: s.held } c 2 rfl rfl rfl
  have hroot : Yields (runRoot 2 longestRow ⟨name, ps, [], false⟩) g
      ({ s with held := s.out :: s.held }.saying []) () (s'.saying ts) := hs'.bind (.pure ())
  obtain ⟨s'', hs''⟩ := yields_captured hroot
  have hfilled : Yields (do
      let fixed := (← names).foldl (fun all p => Assoc.set all p.1 p.2) everywhere
      let c ← newContext ⟨name, ps, [], false⟩ fixed
      joined (← captured (runRoot c longestRow ⟨name, ps, [], false⟩)))
      g Store.blank (String.join ts) s'' :=
    (hnames g).bind (hcontext.bind (hs''.bind yields_joined))
  change Inquiry.bind (readied name written g Store.blank) _ = _
  rw [show readied name written g Store.blank = _ from hready g (Nat.le_add_left ..), Inquiry.bind]
  exact congrArg (Inquiry.bind · _) hfilled

/-- A text that is read as a sheet is filled in as the sheet is, if its slots put in texts. -/
theorem filling_sheet {written : String} {size : Nat} {names : Eval (List (String × Value))}
    {all : List (String × Value)} {cells : Array Cell} (hfit : t.Fit) (ht : t.Apart)
    (hwritten : Written written.toList t.tokens)
    (hnames : ∀ g, Yields names g Store.blank all { Store.blank with cells })
    (hn : cells[n]? = some (.list vs.toArray)) (hserved : t.Served (standing all) n vs)
    (hsize : vs.length ≤ size) :
    filling folder levels name written size names =
      .done (.ok (String.join (t.texts (standing all) vs))) := by
  have hrounds : vs.length < Engine.manyRounds + size := by
    have : 0 < Engine.manyRounds := by decide
    omega
  refine filling_of (fun g hg => yields_readied hfit ht hwritten hg) hnames ?_
  intro s c k hc hvalue hcells
  rw [← hvalue] at hserved ⊢
  exact yields_runOnce folder name (levels + 60) ht hc (hcells ▸ hn) hserved hrounds

end

end SchemaWrappers.Template
