import SchemaWrappers.Proofs.Template.Lexing
import SchemaWrappers.Proofs.Template.Reading

namespace SchemaWrappers.Template

/-- A place where what a name stands for, or a field of it, is put in, with the plain text before
it. -/
structure Slot where
  front : List Char
  owner : String
  field : Option String := none

def dataItems (cs : List Char) : List Item := if cs.isEmpty then [] else [.data (String.ofList cs)]

namespace Slot

def expr (s : Slot) : Expr :=
  match s.field with
  | none => .name s.owner
  | some f => .field (.name s.owner) f

def items (s : Slot) : List Item := dataItems s.front ++ [.value s.expr]

/-- What stands between the guillemets. -/
def inner (s : Slot) : List Char :=
  s.owner.toList ++ match s.field with
    | none => []
    | some f => '.' :: f.toList

def written (s : Slot) : List Char := s.front ++ '«' :: (s.inner ++ ['»'])

def words (s : Slot) : List Token :=
  .name s.owner :: match s.field with
    | none => []
    | some f => [.mark ".", .name f]

def tokens (s : Slot) : List Token := dataTokens s.front ++ .outputStart :: (s.words ++ [.outputEnd])

/-- A slot that is read as such: its names are names, and its owner is not a word of the language. -/
structure Fit (s : Slot) : Prop where
  front : '«' ∉ s.front
  owner : IsName s.owner.toList
  field : ∀ f ∈ s.field, IsName f.toList
  free : (Reader.constants.lookup s.owner).isNone = true
  operand : s.owner ≠ "not"

instance (s : Slot) : Decidable s.Fit :=
  decidable_of_iff ('«' ∉ s.front ∧ IsName s.owner.toList ∧ (∀ f ∈ s.field, IsName f.toList) ∧
      (Reader.constants.lookup s.owner).isNone = true ∧ s.owner ≠ "not")
    ⟨fun ⟨h₁, h₂, h₃, h₄, h₅⟩ => ⟨h₁, h₂, h₃, h₄, h₅⟩, fun ⟨h₁, h₂, h₃, h₄, h₅⟩ => ⟨h₁, h₂, h₃, h₄, h₅⟩⟩

variable {s : Slot}

theorem expr_of_none (h : s.field = none) : s.expr = .name s.owner := by rw [expr, h]

theorem expr_of_some {f : String} (h : s.field = some f) : s.expr = .field (.name s.owner) f := by
  rw [expr, h]

theorem Fit.spelled (h : s.Fit) : Spelled s.inner s.words := by
  have hname {w : String} {cs : List Char} {ts : List Token} (hw : IsName w.toList)
      (hcs : cs.head?.any Text.isNamePart = false) (h : Spelled cs ts) :
      Spelled (w.toList ++ cs) (.name w :: ts) := by
    simpa using Spelled.name hw hcs h
  rw [inner, words]
  cases hf : s.field with
  | none => exact hname h.owner rfl .nil
  | some f =>
    have := hname (h.field f hf) rfl .nil
    rw [List.append_nil] at this
    have hstop : Text.isNamePart '.' = false := by decide +kernel
    exact hname h.owner hstop (.stop this)

theorem Fit.reads (h : s.Fit) (fuel : Nat) :
    Reader.Reads (Reader.tuple true false [] (fuel + 14)) s.words s.expr := by
  refine Reader.reads_tuple true false (by simp) (Reader.reads_expr true h.operand ?_)
  refine Reader.reads_signed (Option.isNone_iff_eq_none.mp h.free) ?_
  rw [expr]
  cases s.field with
  | none => exact Reader.stops_suffixed
  | some f => exact Reader.reads_suffixed_field f _

end Slot

/-- A stretch of a template without tags: slots, and the plain text behind them. -/
structure Row where
  slots : List Slot
  tail : List Char := []

namespace Row

def items (r : Row) : List Item := r.slots.flatMap Slot.items ++ dataItems r.tail
def written (r : Row) : List Char := r.slots.flatMap Slot.written ++ r.tail
def tokens (r : Row) : List Token := r.slots.flatMap Slot.tokens ++ dataTokens r.tail

structure Fit (r : Row) : Prop where
  slots : ∀ s ∈ r.slots, s.Fit
  tail : '«' ∉ r.tail

instance (r : Row) : Decidable r.Fit :=
  decidable_of_iff ((∀ s ∈ r.slots, s.Fit) ∧ '«' ∉ r.tail) ⟨fun ⟨h, h'⟩ => ⟨h, h'⟩, fun ⟨h, h'⟩ => ⟨h, h'⟩⟩

def EndsLine (r : Row) : Prop := r.tail = [] ∨ r.tail.getLast? = some '\n'

end Row

theorem written_slots {row : List Slot} (hrow : ∀ s ∈ row, s.Fit) {rest : List Char}
    {ts : List Token} (h : Written rest ts) :
    Written (row.flatMap Slot.written ++ rest) (row.flatMap Slot.tokens ++ ts) := by
  induction row with
  | nil => exact h
  | cons s row ih =>
    have hs := hrow s (List.mem_cons_self ..)
    have := Written.output hs.front hs.spelled (ih fun t ht => hrow t (List.mem_cons_of_mem _ ht))
    simpa [Slot.written, Slot.tokens] using this

theorem Row.Fit.written_tag {r : Row} (h : r.Fit) (hline : r.EndsLine) {inner rest : List Char}
    {ts us : List Token} (hi : Spelled inner ts) (hraw : ∀ more, Lexer.rawStart? (inner ++ more) = none)
    (hrest : Written rest us) : Written (r.written ++ '«' :: '%' :: (inner ++ '%' :: '»' :: '\n' :: rest))
      (r.tokens ++ .tagStart :: (ts ++ .tagEnd :: us)) := by
  have := written_slots h.slots (Written.tag h.tail hline hi hraw hrest)
  rwa [← List.append_assoc, ← List.append_assoc] at this

namespace Reader
variable {stops : Option (List String)} {items : List Item} {ls rest : List Lexeme}
  {opened : List String} {sought : List (List String)} {fuel : Nat}

theorem run_parts_dataTokens {cs : List Char} (hls : ls.map (·.token) = dataTokens cs) :
    (parts stops items (fuel + (dataItems cs).length)).run ⟨ls ++ rest, opened, sought⟩ =
      (parts stops (items ++ dataItems cs) fuel).run ⟨rest, opened, sought⟩ := by
  rw [dataTokens] at hls
  rw [dataItems]
  split at hls
  · rename_i h
    obtain rfl := List.map_eq_nil_iff.mp hls
    rw [if_pos h, List.append_nil]
    rfl
  · rename_i h
    obtain ⟨l, ls, rfl, hl, hls⟩ := List.map_eq_cons_iff.mp hls
    obtain rfl := List.map_eq_nil_iff.mp hls
    rw [if_neg h]
    exact run_parts_data hl

theorem run_parts_slots {row : List Slot} (hrow : ∀ s ∈ row, s.Fit)
    (hls : ls.map (·.token) = row.flatMap Slot.tokens) :
    (parts stops items (fuel + 14 + (row.flatMap Slot.items).length)).run ⟨ls ++ rest, opened, sought⟩ =
      (parts stops (items ++ row.flatMap Slot.items) (fuel + 14)).run ⟨rest, opened, sought⟩ := by
  induction row generalizing ls items with
  | nil =>
    obtain rfl := List.map_eq_nil_iff.mp hls
    rw [List.flatMap_nil, List.append_nil]
    rfl
  | cons s row ih =>
    have hs := hrow s (List.mem_cons_self ..)
    rw [List.flatMap_cons, Slot.tokens] at hls
    obtain ⟨xs, ys, rfl, hxs, hys⟩ := List.map_eq_append_iff.mp hls
    obtain ⟨fs, xs, rfl, hfs, hxs⟩ := List.map_eq_append_iff.mp hxs
    obtain ⟨l, xs, rfl, hl, hxs⟩ := List.map_eq_cons_iff.mp hxs
    obtain ⟨ws, es, rfl, hws, hes⟩ := List.map_eq_append_iff.mp hxs
    obtain ⟨k, es, rfl, hk, hes⟩ := List.map_eq_cons_iff.mp hes
    obtain rfl := List.map_eq_nil_iff.mp hes
    have hfuel : fuel + 14 + ((s :: row).flatMap Slot.items).length =
        fuel + (row.flatMap Slot.items).length + 14 + 1 + (dataItems s.front).length := by
      rw [List.flatMap_cons, List.length_append, Slot.items, List.length_append, List.length_singleton]
      omega
    have hlexemes : fs ++ l :: (ws ++ [k]) ++ ys ++ rest = fs ++ (l :: (ws ++ k :: (ys ++ rest))) := by
      simp
    rw [hfuel, hlexemes, run_parts_dataTokens hfs, run_parts_output hl hws hk (hs.reads _)]
    rw [Nat.add_right_comm, ih (fun t ht => hrow t (List.mem_cons_of_mem _ ht)) hys]
    simp [Slot.items]

theorem run_parts_row {r : Row} (h : r.Fit) (hls : ls.map (·.token) = r.tokens) :
    (parts stops items (fuel + 14 + r.items.length)).run ⟨ls ++ rest, opened, sought⟩ =
      (parts stops (items ++ r.items) (fuel + 14)).run ⟨rest, opened, sought⟩ := by
  obtain ⟨xs, ys, rfl, hxs, hys⟩ := List.map_eq_append_iff.mp hls
  have hfuel : fuel + 14 + r.items.length =
      fuel + (dataItems r.tail).length + 14 + (r.slots.flatMap Slot.items).length := by
    rw [Row.items, List.length_append]
    omega
  rw [hfuel, List.append_assoc, run_parts_slots h.slots hxs, Nat.add_right_comm,
    run_parts_dataTokens hys, List.append_assoc]
  rfl

end Reader
end SchemaWrappers.Template
