import SchemaWrappers.Proofs.Template.Sheets
import SchemaWrappers.Template.Scope

/-! The names that rows and sheets declare: those that they ask for, and the one that a loop gives its
items to. -/
namespace SchemaWrappers.Template

namespace Scope
variable {outer : String → Bool} {s : Scope} {n : String} {ns : List String}

theorem read_of_seen (h : (s.declares n || outer n) = true) : s.read outer n = s := by
  rw [read, if_pos h]

theorem read_of_new (h : (s.declares n || outer n) = false) :
    s.read outer n = { s with starts := s.starts ++ [(n, .context)] } := by
  have hdeclares : s.declares n = false := (Bool.or_eq_false_iff.mp h).1
  rw [read, if_neg (by rw [h]; exact Bool.false_ne_true), define, hdeclares]
  rfl

theorem contains_starts (s : Scope) (n : String) : (s.starts.map (·.1)).contains n = s.declares n := by
  rw [declares, Bool.eq_iff_iff, List.contains_iff_mem, List.mem_map, Option.isSome_iff_ne_none, Ne,
    List.lookup_eq_none_iff]
  simp

theorem declares_of_mem {p : String × Start} (h : p ∈ s.starts) : s.declares p.1 = true := by
  rw [← contains_starts, List.contains_iff_mem]
  exact List.mem_map_of_mem h

/-- A scope that has read names: it has what it had where it had it, all else it looks up in the
context, and it asks for no name that nothing declares. -/
structure HasRead (outer : String → Bool) (s : Scope) (ns : List String) (s' : Scope) : Prop where
  stores : s'.stores = s.stores
  before : s.starts <+: s'.starts
  new : ∀ p ∈ s'.starts, p ∈ s.starts ∨ p.2 = .context
  seen : ∀ n ∈ ns, s'.declares n = true ∨ outer n = true

theorem declares_mono {s' : Scope} (h : s.starts <+: s'.starts) (hn : s.declares n = true) :
    s'.declares n = true := by
  obtain ⟨more, hmore⟩ := h
  rw [declares] at hn ⊢
  rw [← hmore, List.lookup_append, Option.isSome_or, hn, Bool.true_or]

theorem hasRead_read (outer : String → Bool) (s : Scope) (n : String) :
    HasRead outer s [n] (s.read outer n) := by
  cases h : s.declares n || outer n with
  | true =>
    rw [read_of_seen h]
    refine ⟨rfl, List.prefix_rfl, fun p hp => .inl hp, fun m hm => ?_⟩
    obtain rfl := List.mem_singleton.mp hm
    exact Bool.or_eq_true_iff.mp h
  | false =>
    rw [read_of_new h]
    refine ⟨rfl, List.prefix_append .., fun p hp => ?_, fun m hm => .inl ?_⟩
    · refine (List.mem_append.mp hp).imp_right fun hp => ?_
      rw [List.mem_singleton.mp hp]
    · obtain rfl := List.mem_singleton.mp hm
      exact declares_of_mem (p := (m, .context)) (by simp)

theorem HasRead.trans {s' s'' : Scope} {ms : List String} (h : HasRead outer s ns s')
    (h' : HasRead outer s' ms s'') : HasRead outer s (ns ++ ms) s'' where
  stores := h'.stores.trans h.stores
  before := h.before.trans h'.before
  new p hp := (h'.new p hp).elim (h.new p) .inr
  seen n hn := (List.mem_append.mp hn).elim
    (fun hn => (h.seen n hn).imp_left (declares_mono h'.before)) (h'.seen n)

theorem hasRead_foldl (outer : String → Bool) (s : Scope) (ns : List String) :
    HasRead outer s ns (ns.foldl (read outer) s) := by
  induction ns generalizing s with
  | nil => exact ⟨rfl, List.prefix_rfl, fun p hp => .inl hp, by simp⟩
  | cons n ns ih => exact (hasRead_read outer s n).trans (ih _)

end Scope

theorem names_slot (l : Slot) : l.expr.names = [l.owner] := by
  cases hf : l.field with
  | none =>
    rw [Slot.expr_of_none hf]
    simp [Expr.names]
  | some f =>
    rw [Slot.expr_of_some hf]
    simp [Expr.names, Expr.children]

def Row.owners (r : Row) : List String := r.slots.map (·.owner)

theorem items_dataItems (outer : String → Bool) (s : Scope) (cs : List Char) :
    Scope.items outer s (dataItems cs) = s := by
  rw [dataItems]
  split
  · rfl
  · rfl

theorem items_append (outer : String → Bool) (s : Scope) (is js : List Item) :
    Scope.items outer s (is ++ js) = Scope.items outer (Scope.items outer s is) js := List.foldl_append

theorem items_row (outer : String → Bool) (s : Scope) (r : Row) :
    Scope.items outer s r.items = r.owners.foldl (Scope.read outer) s := by
  rw [Row.items, items_append, items_dataItems, Row.owners]
  induction r.slots generalizing s with
  | nil => rfl
  | cons l row ih =>
    have hvalue : Scope.items outer s [.value l.expr] = s.read outer l.owner := by
      change Scope.readAll outer s l.expr = _
      rw [Scope.readAll, names_slot]
      rfl
    rw [List.flatMap_cons, Slot.items, items_append, items_append, items_dataItems, hvalue, ih]
    rfl

theorem parts_joinOutputs (outer : String → Bool) (s : Scope) (is : List Item) (ps : List Part) :
    Scope.parts outer s (Reader.joinOutputs is ps) = Scope.parts outer (Scope.items outer s is) ps := by
  cases is with
  | nil => rfl
  | cons i is =>
    rw [Reader.joinOutputs]
    change Scope.parts outer s (.output (i :: is) :: ps) = _
    rw [Scope.parts, Scope.part]

theorem ofParts_joinOutputs (is : List Item) (ps : List Part) :
    Mention.ofParts (Reader.joinOutputs is ps) = Mention.ofPart (.output is) ++ Mention.ofParts ps := by
  cases is with
  | nil =>
    change Mention.ofParts ps = _
    rw [Mention.ofPart]
    rfl
  | cons i is =>
    change Mention.ofParts (.output (i :: is) :: ps) = _
    rw [Mention.ofParts]

theorem ofPart_row (r : Row) : Mention.ofPart (.output r.items) = r.owners.map .read := by
  have hdata (cs : List Char) : Mention.ofPart (.output (dataItems cs)) = [] := by
    rw [Mention.ofPart, dataItems]
    split
    · rfl
    · rfl
  have happend (is js : List Item) : Mention.ofPart (.output (is ++ js)) =
      Mention.ofPart (.output is) ++ Mention.ofPart (.output js) := by
    rw [Mention.ofPart, Mention.ofPart, Mention.ofPart, List.flatMap_append]
  rw [Row.items, happend, hdata, List.append_nil, Row.owners]
  induction r.slots with
  | nil =>
    rw [Mention.ofPart]
    rfl
  | cons l row ih =>
    have hvalue : Mention.ofPart (.output [.value l.expr]) = [.read l.owner] := by
      rw [Mention.ofPart]
      change Mention.reads l.expr ++ [] = _
      rw [Mention.reads, names_slot]
      rfl
    rw [List.flatMap_cons, Slot.items, happend, happend, hdata, hvalue, ih]
    rfl

theorem ofParts_row (r : Row) : Mention.ofParts (Reader.joinOutputs r.items []) = r.owners.map .read := by
  rw [ofParts_joinOutputs, ofPart_row, Mention.ofParts, List.append_nil]

theorem withinAll_joinOutputs (is : List Item) (ps : List Part) :
    Part.withinAll (Reader.joinOutputs is ps) = Reader.joinOutputs is (Part.withinAll ps) := by
  cases is with
  | nil => rfl
  | cons i is =>
    have hown : Part.within (.output (i :: is)) = [.output (i :: is)] := by simp [Part.within]
    change Part.withinAll (.output (i :: is) :: ps) = .output (i :: is) :: Part.withinAll ps
    rw [Part.withinAll, hown, List.singleton_append]

theorem asksFor_eq_false {name : String} {ps : List Part}
    (h : ∀ n, .read n ∈ Mention.ofParts ps → n ≠ name) : asksFor name ps = false := by
  rw [asksFor]
  split
  · rename_i n hfind
    have hname := List.find?_some hfind
    exact absurd (beq_iff_eq.mp hname) (h n (List.mem_of_find?_eq_some hfind))
  · rfl

theorem asksFor_row {name : String} {r : Row} (h : name ∉ r.owners) :
    asksFor name (Reader.joinOutputs r.items []) = false := by
  refine asksFor_eq_false fun n hn => ?_
  rw [ofParts_row] at hn
  obtain ⟨m, hm, hmn⟩ := List.mem_map.mp hn
  cases hmn
  rintro rfl
  exact h hm

namespace Sheet

def owners (t : Sheet) : List String := t.head.owners ++ [t.source]

/-- A sheet that asks for nothing about itself or its loop. -/
structure Apart (t : Sheet) : Prop where
  self : "self" ∉ t.owners ++ t.body.owners
  counter : "loop" ∉ t.body.owners
  item : t.item ≠ "loop"

theorem withinAll_inside (t : Sheet) : Part.withinAll t.inside = t.inside := by
  rw [inside, withinAll_joinOutputs, Part.withinAll]

theorem withinAll_loop (t : Sheet) : Part.withinAll [t.loop] = t.loop :: t.inside := by
  rw [Part.withinAll, Part.withinAll, List.append_nil, loop, Part.within, Part.withinAll, List.append_nil,
    withinAll_inside]

theorem withinAll_parts (t : Sheet) :
    Part.withinAll t.parts = Reader.joinOutputs t.head.items (t.loop :: t.inside) := by
  rw [parts, withinAll_joinOutputs, withinAll_loop]

theorem asksFor_parts {t : Sheet} {name : String} (h : name ∉ t.owners ++ t.body.owners) :
    asksFor name t.parts = false := by
  refine asksFor_eq_false fun n hn => ?_
  rw [parts, loop, inside, ofParts_joinOutputs, ofPart_row, Mention.ofParts, Mention.ofPart,
    ofParts_row] at hn
  simp [Mention.ofParts, Mention.targets, Mention.reads, Target.names, Expr.names] at hn
  rintro rfl
  exact h (by simpa [owners, or_assoc] using hn)

/-- A sheet declares the names that it asks for outside its loop. -/
theorem Apart.ofRoot_parts {t : Sheet} (h : t.Apart) :
    Scope.ofRoot ["self"] t.parts = t.owners.foldl (Scope.read fun _ => false) {} := by
  have hself : (["self"].filter fun n => asksFor n t.parts) = [] := by
    simp [asksFor_parts h.self]
  rw [Scope.ofRoot, hself, parts, parts_joinOutputs, items_row, loop, Scope.parts, Scope.part,
    Scope.parts, owners, List.foldl_append]
  simp [Scope.readAll, Expr.names, Scope.gives]

theorem Apart.hasRead_root {t : Sheet} (h : t.Apart) :
    Scope.HasRead (fun _ => false) {} t.owners (Scope.ofRoot ["self"] t.parts) := by
  rw [h.ofRoot_parts]
  exact Scope.hasRead_foldl ..

theorem Apart.declares_root {t : Sheet} (h : t.Apart) {n : String} (hn : n ∈ t.owners) :
    (Scope.ofRoot ["self"] t.parts).declares n = true :=
  (h.hasRead_root.seen n hn).resolve_right Bool.false_ne_true

theorem Apart.context_root {t : Sheet} (h : t.Apart) :
    ∀ p ∈ (Scope.ofRoot ["self"] t.parts).starts, p.2 = .context :=
  fun p hp => (h.hasRead_root.new p hp).resolve_left List.not_mem_nil

theorem ofLoop_inside (t : Sheet) (outer : String → Bool) :
    Scope.ofLoop outer (.name t.item) false t.inside =
      t.body.owners.foldl (Scope.read outer) (Scope.give {} t.item) := by
  rw [Scope.ofLoop, inside, parts_joinOutputs, items_row, Scope.parts]
  simp [Target.names, Scope.gives]

theorem hasRead_loop (t : Sheet) (outer : String → Bool) :
    Scope.HasRead outer (Scope.give {} t.item) t.body.owners
      (Scope.ofLoop outer (.name t.item) false t.inside) := by
  rw [ofLoop_inside]
  exact Scope.hasRead_foldl ..

theorem Apart.countsItself_inside {t : Sheet} (h : t.Apart) :
    countsItself t.inside [] false = false := by
  rw [countsItself, List.append_nil, withinAll_inside, inside, asksFor_row h.counter, Reader.joinOutputs]
  split
  · rfl
  · rfl

end Sheet
end SchemaWrappers.Template
