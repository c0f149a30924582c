import SchemaWrappers.Proofs.Template.Frames
import SchemaWrappers.Proofs.Template.Slots

namespace SchemaWrappers.Template
open Eval

def Store.saying (s : Store) (ts : List String) : Store := { s with out := (ts.map Value.plain).toArray }

def dataTexts (cs : List Char) : List String := if cs.isEmpty then [] else [String.ofList cs]

def Slot.texts (fill : Slot → String) (s : Slot) : List String := dataTexts s.front ++ [fill s]

def Row.texts (fill : Slot → String) (r : Row) : List String :=
  r.slots.flatMap (Slot.texts fill) ++ dataTexts r.tail

theorem join_dataTexts (cs : List Char) : String.join (dataTexts cs) = String.ofList cs := by
  rw [dataTexts]
  split
  · rename_i h
    rw [List.isEmpty_iff.mp h]
    rfl
  · rw [String.join_cons, String.join_nil, String.append_empty]

theorem Slot.join_texts (fill : Slot → String) (l : Slot) :
    String.join (l.texts fill) = String.ofList l.front ++ fill l := by
  rw [texts, String.join_append, join_dataTexts, String.join_cons, String.join_nil, String.append_empty]

theorem join_flatMap {α : Type} (as : List α) (f : α → List String) :
    String.join (as.flatMap f) = String.join (as.map fun a => String.join (f a)) := by
  induction as with
  | nil => rfl
  | cons a as ih => rw [List.flatMap_cons, String.join_append, ih, List.map_cons, String.join_cons]

theorem Row.join_texts (fill : Slot → String) (r : Row) : String.join (r.texts fill) =
    String.join (r.slots.map fun l => String.ofList l.front ++ fill l) ++ String.ofList r.tail := by
  rw [texts, String.join_append, join_dataTexts, join_flatMap]
  simp only [Slot.join_texts]

/-- An expression is worked out as a text, whatever has been put out. -/
def StandsFor (g : Engine) (env : Env) (s : Store) (e : Expr) (t : String) : Prop :=
  ∀ ts, Yields (expr env e) g (s.saying ts) (.plain t) (s.saying ts)

def fillItem (env : Env) : Item → Eval Unit
  | .data s => put (.plain s)
  | .value e => do put (.plain (← output (← escapesHere env) (← expr env e)))

variable {g : Engine} {env : Env} {s : Store} {ts : List String}

theorem yields_put (t : String) : Yields (put (.plain t)) g (s.saying ts) () (s.saying (ts ++ [t])) := by
  change Inquiry.done (Except.ok (), { s with out := (ts.map Value.plain).toArray.push (.plain t) }) = _
  simp [Store.saying]

theorem yields_dataItems (cs : List Char) : Yields ((dataItems cs).forM (fillItem env)) g (s.saying ts)
    () (s.saying (ts ++ dataTexts cs)) := by
  rw [dataItems, dataTexts]
  split
  · rw [List.append_nil]
    exact .pure ()
  · exact (yields_put _).bind (.pure ())

/-- Where texts are not escaped, values are put out with the texts that they stand for. -/
theorem yields_value (ts : List String) {e : Expr} {t : String} (hescape : env.escape = false)
    (hvaries : env.varies = false) (he : StandsFor g env s e t) :
    Yields (fillItem env (.value e)) g (s.saying ts) () (s.saying (ts ++ [t])) := by
  have hhere : Yields (escapesHere env) g (s.saying ts) false (s.saying ts) := by
    rw [escapesHere, hvaries, hescape]
    exact .pure _
  exact hhere.bind ((he ts).bind ((Yields.pure t).bind (yields_put t)))

theorem yields_slots (ts : List String) {row : List Slot} {fill : Slot → String}
    (hescape : env.escape = false) (hvaries : env.varies = false)
    (hrow : ∀ l ∈ row, StandsFor g env s l.expr (fill l)) :
    Yields ((row.flatMap Slot.items).forM (fillItem env)) g (s.saying ts) ()
      (s.saying (ts ++ row.flatMap (Slot.texts fill))) := by
  induction row generalizing ts with
  | nil =>
    rw [List.flatMap_nil, List.flatMap_nil, List.append_nil]
    exact .pure ()
  | cons l row ih =>
    have hvalue := yields_value (ts ++ dataTexts l.front) hescape hvaries
      (hrow l (List.mem_cons_self ..))
    have hrest := ih (ts ++ dataTexts l.front ++ [fill l])
      fun k hk => hrow k (List.mem_cons_of_mem _ hk)
    have := (yields_dataItems l.front).forM_append (hvalue.forM_cons hrest)
    simpa [Slot.texts, Slot.items] using this

theorem yields_row (ts : List String) {r : Row} {fill : Slot → String} (hescape : env.escape = false)
    (hvaries : env.varies = false) (hrow : ∀ l ∈ r.slots, StandsFor g env s l.expr (fill l)) :
    Yields (r.items.forM (fillItem env)) g (s.saying ts) () (s.saying (ts ++ r.texts fill)) := by
  have := (yields_slots ts hescape hvaries hrow).forM_append (yields_dataItems r.tail)
  rwa [List.append_assoc] at this

/-- What was put out is one text. -/
theorem yields_joined : Yields (joined (ts.map Value.plain).toArray) g s (String.join ts) s := by
  have hjoined : (ts.map Value.plain).zipIdx = ts.zipIdx.map fun p => (Value.plain p.1, p.2) :=
    List.zipIdx_map ..
  rw [joined, hjoined, List.mapM_map]
  refine (Yields.mapM (k := Prod.fst) fun p _ => .pure _).bind ?_
  rw [List.zipIdx_map_fst]
  exact .pure _

end SchemaWrappers.Template
