import SchemaWrappers.Proofs.Method.Merging
import SchemaWrappers.Proofs.Text.Pieces
import SchemaWrappers.Rendering

/-! Calling a generated wrapper: its parameter list binds the arguments, and the same list written
in the call hands them on. -/
namespace SchemaWrappers.Forwarding
open Text

/-- A value that is passed. A parameter that takes the remaining arguments is bound to an array. -/
inductive Passed (α : Type) where
  | undefined
  | array (items : List (Passed α))
  | other (a : α)

/-- An entry of a parameter list, or of the arguments of a call. -/
structure Item where
  name : String
  spread : Bool
  deriving DecidableEq

namespace Item

def ofChars : List Char → Item
  | '.' :: '.' :: '.' :: cs => ⟨String.ofList cs, true⟩
  | cs => ⟨String.ofList cs, false⟩

def written (i : Item) : String := if i.spread then "..." ++ i.name else i.name

end Item

/-- The entries of a list as it is written, with commas between them. -/
def items (text : String) : List Item :=
  if text.isEmpty then [] else (pieces (· == ',') text.toList).map (Item.ofChars ∘ trimmed)

variable {α : Type}

/-- Binds parameters to arguments one by one. Those without an argument are undefined, and nothing
can stand behind one that takes the remaining arguments. -/
def bind : List Item → List (Passed α) → Option (List (String × Passed α))
  | [], _ => some []
  | ⟨x, true⟩ :: is, args => if is.isEmpty then some [(x, .array args)] else none
  | ⟨x, false⟩ :: is, args => (bind is args.tail).map ((x, args.headD .undefined) :: ·)

/-- The values that one entry of a call stands for; only an array can be spread. -/
def values (bound : List (String × Passed α)) (i : Item) : Option (List (Passed α)) :=
  match i.spread, bound.lookup i.name with
  | false, some v => some [v]
  | true, some (.array vs) => some vs
  | _, _ => none

def evaluate (bound : List (String × Passed α)) (is : List Item) : Option (List (Passed α)) :=
  (is.mapM (values bound)).map List.flatten

/-- What a function hands on when it is called with `args`: its parameter list and the arguments of
the call in its body are written as given. No name can be a parameter twice. -/
def handedOn (params arguments : String) (args : List (Passed α)) : Option (List (Passed α)) :=
  if ((items params).map (·.name)).Nodup then
    (bind (items params) args).bind (evaluate · (items arguments))
  else none

/-- What holds of every identifier: it is not empty, and no comma, dot or blank stands in it. -/
def Bare (name : String) : Prop :=
  name ≠ "" ∧ ∀ c ∈ name.toList, c ≠ ',' ∧ c ≠ '.' ∧ isBlank c = false

instance : DecidablePred Bare := fun name =>
  have : Decidable (∀ c ∈ name.toList, c ≠ ',' ∧ c ≠ '.' ∧ isBlank c = false) :=
    List.decidableBAll _ name.toList
  inferInstanceAs (Decidable (_ ∧ _))

private theorem pieces_commas (cs : List Char) (css : List (List Char))
    (h : ∀ ds ∈ cs :: css, ',' ∉ ds) :
    pieces (· == ',') ([',', ' '].intercalate (cs :: css)) = cs :: css.map (' ' :: ·) := by
  have hc : ∀ c ∈ cs, (c == ',') = false := by
    intro c hc
    rw [beq_eq_false_iff_ne]
    rintro rfl
    exact h cs (List.mem_cons_self ..) hc
  induction css generalizing cs with
  | nil => rw [List.intercalate_singleton, pieces_of_forall_not hc, List.map_nil]
  | cons ds css ih =>
    -- The blank behind a comma goes to the front of the next piece.
    have hb : ' ' :: [',', ' '].intercalate (ds :: css) = [',', ' '].intercalate ((' ' :: ds) :: css) := by
      cases css <;> simp
    have hd : ∀ c ∈ ' ' :: ds, (c == ',') = false := by
      intro c hc
      rw [beq_eq_false_iff_ne]
      rintro rfl
      exact h ds (by simp) (by simpa using hc)
    rw [List.intercalate_cons_cons, List.append_assoc, List.cons_append, List.singleton_append, hb,
      pieces_append_cons hc rfl, ih (' ' :: ds) ?_ hd, List.map_cons]
    intro es he
    rcases List.mem_cons.mp he with rfl | he
    · intro hc
      simpa using hd ',' hc
    · exact h es (List.mem_cons_of_mem _ (List.mem_cons_of_mem _ he))

/-- A list written with commas and blanks is read entry by entry. -/
theorem items_intercalate (rs : List String)
    (h : ∀ r ∈ rs, r ≠ "" ∧ ∀ c ∈ r.toList, c ≠ ',' ∧ isBlank c = false) :
    items (", ".intercalate rs) = rs.map (fun r => Item.ofChars r.toList) := by
  cases rs with
  | nil => rfl
  | cons r rs =>
    have hne : (", ".intercalate (r :: rs)).isEmpty = false := by
      have hr := (h r (List.mem_cons_self ..)).1
      cases rs with
      | nil => simpa using hr
      | cons r' rs => simp [String.intercalate_cons_cons, hr]
    have ht : ∀ r ∈ rs, trimmed (' ' :: r.toList) = r.toList := by
      intro s hs
      rw [trimmed_cons_of_blank (by decide)]
      exact trimmed_of_forall_not_blank fun c hc => ((h s (List.mem_cons_of_mem _ hs)).2 c hc).2
    have hr : trimmed r.toList = r.toList :=
      trimmed_of_forall_not_blank fun c hc => ((h r (List.mem_cons_self ..)).2 c hc).2
    rw [items, hne, if_neg Bool.false_ne_true, String.toList_intercalate, List.map_cons,
      show ", ".toList = [',', ' '] from rfl, pieces_commas]
    · simp only [List.map_cons, Function.comp_apply, hr, List.map_map]
      congr 1
      apply List.map_congr_left
      intro s hs
      simp only [Function.comp_apply, ht s hs]
    · intro ds hds hc
      obtain ⟨s, hs, rfl⟩ := List.mem_map.mp (List.map_cons ▸ hds)
      exact ((h s hs).2 ',' hc).1 rfl

/-- The first `n` arguments, undefined values standing for those that are missing. -/
def filled (n : Nat) (args : List (Passed α)) : List (Passed α) :=
  args.take n ++ List.replicate (n - args.length) .undefined

theorem filled_length (n : Nat) (args : List (Passed α)) : (filled n args).length = n := by
  simp only [filled, List.length_append, List.length_take, List.length_replicate]
  omega

private theorem filled_succ (n : Nat) (args : List (Passed α)) :
    filled (n + 1) args = args.headD .undefined :: filled n args.tail := by
  cases args with
  | nil => simp [filled, List.replicate_succ]
  | cons a args => simp [filled]

theorem filled_of_length_le {n : Nat} {args : List (Passed α)} (h : args.length ≤ n) :
    filled n args = args ++ List.replicate (n - args.length) .undefined := by
  rw [filled, List.take_of_length_le h]

/-- Nothing is lost by taking the remaining arguments as well. -/
theorem filled_append_drop (n : Nat) (args : List (Passed α)) :
    filled n args ++ args.drop n = args ++ List.replicate (n - args.length) .undefined := by
  by_cases h : args.length ≤ n
  · rw [filled_of_length_le h, List.drop_of_length_le h, List.append_nil]
  · rw [filled, Nat.sub_eq_zero_of_le (by omega), List.replicate_zero, List.append_nil,
      List.append_nil, List.take_append_drop]

def plain (x : String) : Item := ⟨x, false⟩

private theorem bind_plain (xs : List String) (is : List Item) (args : List (Passed α)) :
    bind (xs.map plain ++ is) args =
      (bind is (args.drop xs.length)).map (xs.zip (filled xs.length args) ++ ·) := by
  induction xs generalizing args with
  | nil => simp
  | cons x xs ih =>
    rw [List.map_cons, List.cons_append, plain, bind, ih, List.length_cons, filled_succ,
      List.drop_tail, Option.map_map]
    rfl

/-- Parameters of different names are all found again, unless names are bound before them. -/
private theorem lookup_zip {xs : List String} {vs : List (Passed α)} (hd : xs.Nodup)
    (hl : xs.length = vs.length) (before behind : List (String × Passed α))
    (hb : ∀ x ∈ xs, before.lookup x = none) :
    List.Forall₂ (fun x v => (before ++ (xs.zip vs ++ behind)).lookup x = some v) xs vs := by
  induction xs generalizing vs before with
  | nil =>
    cases vs with
    | nil => exact .nil
    | cons v vs => simp at hl
  | cons x xs ih =>
    cases vs with
    | nil => simp at hl
    | cons v vs =>
      obtain ⟨hx, hxs⟩ := List.nodup_cons.mp hd
      refine .cons ?_ ?_
      · simp [List.lookup_append, hb x (List.mem_cons_self ..)]
      · have h := @ih vs hxs (by simpa using hl) (before ++ [(x, v)]) (by
          intro y hy
          have hne : (y == x) = false := by
            rw [beq_eq_false_iff_ne]
            rintro rfl
            exact hx hy
          simp [List.lookup_append, hb y (List.mem_cons_of_mem _ hy), List.lookup_cons, hne])
        simpa only [List.zip_cons_cons, List.cons_append, List.append_assoc, List.nil_append] using h

private theorem evaluate_plain {bound : List (String × Passed α)} {xs : List String}
    {vs : List (Passed α)} (h : List.Forall₂ (fun x v => bound.lookup x = some v) xs vs) :
    evaluate bound (xs.map plain) = some vs := by
  induction h with
  | nil => rfl
  | @cons x v xs vs hx _ ih =>
    rw [evaluate, Option.map_eq_some_iff] at ih
    obtain ⟨vss, hm, rfl⟩ := ih
    have hv : values bound (plain x) = some [v] := by simp only [values, plain, hx]
    simp [evaluate, List.map_cons, List.mapM_cons, hv, hm]

/-- Without a parameter for the remaining arguments, those beyond the last parameter are dropped. -/
theorem handedOn_plain {params : String} {xs : List String} (hp : items params = xs.map plain)
    (hd : xs.Nodup) (args : List (Passed α)) :
    handedOn params params args = some (filled xs.length args) := by
  have hn : ((items params).map (·.name)).Nodup := by
    rw [hp, List.map_map]
    simpa [Function.comp_def, plain] using hd
  have hb : bind (items params) args = some (xs.zip (filled xs.length args)) := by
    rw [hp, ← List.append_nil (xs.map plain), bind_plain]
    simp [bind]
  have hz := lookup_zip hd (filled_length xs.length args).symm [] [] (by simp)
  rw [List.nil_append, List.append_nil] at hz
  rw [handedOn, if_pos hn, hb, Option.bind_some, hp]
  exact evaluate_plain hz

/-- A closing parameter that takes the remaining arguments hands them on one by one. -/
theorem handedOn_rest {params z : String} {xs : List String}
    (hp : items params = xs.map plain ++ [⟨z, true⟩]) (hd : (xs ++ [z]).Nodup)
    (args : List (Passed α)) :
    handedOn params params args = some (filled xs.length args ++ args.drop xs.length) := by
  have hn : ((items params).map (·.name)).Nodup := by
    rw [hp, List.map_append, List.map_map]
    simpa [Function.comp_def, plain] using hd
  have hb : bind (items params) args =
      some (xs.zip (filled xs.length args) ++ [(z, .array (args.drop xs.length))]) := by
    rw [hp, bind_plain]
    simp [bind]
  obtain ⟨hxs, -, hz⟩ := List.nodup_append.mp hd
  have hl := lookup_zip hxs (filled_length xs.length args).symm []
    [(z, .array (args.drop xs.length))] (by simp)
  rw [List.nil_append] at hl
  have he := evaluate_plain hl
  rw [evaluate, Option.map_eq_some_iff] at he
  obtain ⟨vss, hm, hvs⟩ := he
  have hout : (xs.zip (filled xs.length args)).lookup z = none := by
    rw [List.lookup_eq_none_iff]
    intro q hq
    have hx := (List.of_mem_zip hq).1
    rw [bne_iff_ne]
    rintro rfl
    exact hz _ hx _ (List.mem_singleton.mpr rfl) rfl
  have hlast : values (xs.zip (filled xs.length args) ++ [(z, .array (args.drop xs.length))])
      ⟨z, true⟩ = some (args.drop xs.length) := by
    simp [values, List.lookup_append, hout]
  rw [handedOn, if_pos hn, hb, Option.bind_some, hp, evaluate, List.mapM_append, hm]
  simp [List.mapM_cons, hlast, hvs]

private theorem ofChars_of_ne_dot {name : String} (h : ∀ c ∈ name.toList, c ≠ '.') :
    Item.ofChars name.toList = plain name := by
  rw [Item.ofChars, String.ofList_toList]
  · rfl
  · intro cs hcs
    exact h '.' (by rw [hcs]; exact List.mem_cons_self ..) rfl

private theorem ofChars_spread (name : String) :
    Item.ofChars ("..." ++ name).toList = ⟨name, true⟩ := by
  rw [String.toList_append]
  simp [Item.ofChars]

theorem ofChars_written {i : Item} (h : Bare i.name) : Item.ofChars i.written.toList = i := by
  obtain ⟨x, _ | _⟩ := i
  · exact ofChars_of_ne_dot fun c hc => (h.2 c hc).2.1
  · exact ofChars_spread x

private theorem bare_written {i : Item} (h : Bare i.name) :
    i.written ≠ "" ∧ ∀ c ∈ i.written.toList, c ≠ ',' ∧ isBlank c = false := by
  obtain ⟨x, _ | _⟩ := i
  · exact ⟨h.1, fun c hc => ⟨(h.2 c hc).1, (h.2 c hc).2.2⟩⟩
  · refine ⟨by simp [Item.written, h.1], ?_⟩
    intro c hc
    rw [Item.written, if_pos rfl, String.toList_append, List.mem_append] at hc
    rcases hc with hc | hc
    · have : c = '.' := by simpa using hc
      subst c
      decide
    · exact ⟨(h.2 c hc).1, (h.2 c hc).2.2⟩

/-- Entries with bare names are read back as they were written. -/
theorem items_written {is : List Item} (h : ∀ i ∈ is, Bare i.name) :
    items (", ".intercalate (is.map Item.written)) = is := by
  have hw : ∀ r ∈ is.map Item.written, r ≠ "" ∧ ∀ c ∈ r.toList, c ≠ ',' ∧ isBlank c = false := by
    intro r hr
    obtain ⟨i, hi, rfl⟩ := List.mem_map.mp hr
    exact bare_written (h i hi)
  rw [items_intercalate _ hw, List.map_map]
  exact (List.map_congr_left fun i hi => ofChars_written (h i hi)).trans (List.map_id is)

private theorem bare_rendered {m : Method} {x : String} (h : Bare x) :
    m.rendered x ≠ "" ∧ ∀ c ∈ (m.rendered x).toList, c ≠ ',' ∧ isBlank c = false := by
  rcases m.rendered_cases x with he | he <;> rw [he]
  · exact bare_written (i := ⟨x, false⟩) h
  · exact bare_written (i := ⟨x, true⟩) h

/-- The entries of a wrapper's list are its merged names; only the last one can be spread. -/
theorem items_stub {m : Method} {xs : List String} {z : String} (v : Vocabulary) (ns : String)
    (hn : m.parameterNames = xs ++ [z]) (hd : m.parameterNames.Nodup)
    (hb : ∀ x ∈ m.parameterNames, Bare x) :
    items (Rendering.stub v ns m).params =
      xs.map plain ++ [Item.ofChars (m.rendered z).toList] := by
  have hr := Method.renderedParameters_append hn hd
  have hx : ∀ x ∈ xs, Bare x := fun x hx => hb x (by rw [hn]; simp [hx])
  have hw : ∀ r ∈ m.renderedParameters, r ≠ "" ∧ ∀ c ∈ r.toList, c ≠ ',' ∧ isBlank c = false := by
    intro r hr
    obtain ⟨x, hx, rfl⟩ := List.mem_map.mp hr
    exact bare_rendered (hb x hx)
  rw [Rendering.stub, items_intercalate _ hw, hr, List.map_append, List.map_singleton]
  congr 1
  apply List.map_congr_left
  intro x hxs
  exact ofChars_of_ne_dot fun c hc => ((hx x hxs).2 c hc).2.1

def EndsSpread (m : Method) : Prop := ∃ x, m.renderedParameters.getLast? = some ("..." ++ x)

/-- As many arguments as there are parameters are handed on as they are, and all of them are where
the last parameter takes the remaining ones. -/
theorem handedOn_stub {m : Method} (v : Vocabulary) (ns : String) (hd : m.parameterNames.Nodup)
    (hb : ∀ x ∈ m.parameterNames, Bare x) (args : List (Passed α))
    (h : args.length ≤ m.parameterNames.length ∨ EndsSpread m) :
    let params := (Rendering.stub v ns m).params
    ∃ k, handedOn params params args = some (args ++ List.replicate k .undefined) := by
  rcases List.eq_nil_or_concat m.parameterNames with hn | ⟨xs, z, hn⟩
  · have hr : m.renderedParameters = [] := by rw [Method.renderedParameters, hn]; rfl
    have hi : items (Rendering.stub v ns m).params = [].map plain := by
      rw [Rendering.stub, hr]; rfl
    have hl : args.length ≤ 0 := by
      rcases h with hl | ⟨x, hx⟩
      · simpa [hn] using hl
      · simp [hr] at hx
    refine ⟨0 - args.length, ?_⟩
    rw [handedOn_plain hi .nil, List.length_nil, filled_of_length_le hl]
  · rw [List.concat_eq_append] at hn
    have hi := items_stub v ns hn hd hb
    have hr := Method.renderedParameters_append hn hd
    have hz := hb z (by rw [hn]; simp)
    rw [hn] at hd h
    rcases m.rendered_cases z with he | he
    · rw [he, ofChars_of_ne_dot fun c hc => (hz.2 c hc).2.1] at hi
      have hl : args.length ≤ (xs ++ [z]).length := by
        rcases h with hl | ⟨x, hx⟩
        · exact hl
        · -- A bare name does not begin with the mark of a spread.
          rw [hr, he, List.getLast?_concat, Option.some.injEq] at hx
          exact absurd rfl (hz.2 '.' (by rw [hx, String.toList_append]; simp)).2.1
      refine ⟨(xs ++ [z]).length - args.length, ?_⟩
      rw [handedOn_plain (by rw [hi, List.map_append, List.map_singleton]) hd,
        filled_of_length_le hl]
    · rw [he, ofChars_spread] at hi
      exact ⟨xs.length - args.length, by rw [handedOn_rest hi hd, filled_append_drop]⟩

/-- A wrapper hands on the arguments it is called with, in order and followed by undefined values
only, as long as some overload can take them or the signature ends in a spread. -/
theorem stub_hands_on_arguments {name : String} {m : Method} (hm : Method.new name = .ok m)
    (os : List Overload) (hbare : ∀ o ∈ os, ∀ p ∈ o.parameters, Bare p.name)
    (hdistinct : ∀ o ∈ os, (o.parameters.map (·.name)).Nodup)
    (v : Vocabulary) (ns : String) (args : List (Passed α))
    (hargs : (∃ o ∈ os, (∀ p ∈ o.parameters, p.rest = false) ∧ args.length ≤ o.parameters.length) ∨
      EndsSpread (m.add os).merge) :
    let params := (Rendering.stub v ns (m.add os).merge).params
    ∃ k, handedOn params params args = some (args ++ List.replicate k .undefined) := by
  obtain ⟨-, rfl⟩ := Method.new_ok hm
  have hadd : ∀ o, o ∈ (Method.add { name } os).overloads ↔ o ∈ os := by simp [Method.add]
  apply handedOn_stub v ns (Method.merge_parameterNames_nodup _)
  · intro x hx
    obtain ⟨o, ho, p, hp, rfl⟩ := Method.mem_merge_parameterNames.mp hx
    exact hbare o ((hadd o).mp ho) p hp
  · rcases hargs with ⟨o, ho, -, hl⟩ | hs
    · exact .inl (Nat.le_trans hl (Method.length_le_merge ((hadd o).mpr ho) (hdistinct o ho)))
    · exact .inr hs

/-- Two overloads that share a name in different places; the first one's spread is not the last. -/
def tupleOverloads : List Overload :=
  [{ owner := "Builder", name := "Tuple"
     parameters := [{ name := "types" }, { name := "rest", rest := true }] },
    { owner := "Builder", name := "Tuple"
      parameters := [{ name := "options", optional := true }, { name := "types" },
        { name := "others", rest := true }] }]

theorem tuple_hands_on_six :
    let m := (Method.add { name := "Tuple" } tupleOverloads).merge
    let params := (Rendering.stub ⟨Vocabulary.base⟩ "typebox" m).params
    let args := [1, 2, 3, 4, 5, 6].map Passed.other
    (∀ o ∈ tupleOverloads, ∀ p ∈ o.parameters, Bare p.name) ∧
    (∀ o ∈ tupleOverloads, (o.parameters.map (·.name)).Nodup) ∧ EndsSpread m ∧
    ∃ k, handedOn params params args = some (args ++ List.replicate k .undefined) := by
  have hm : Method.new "Tuple" = .ok { name := "Tuple" } := rfl
  have hbare : ∀ o ∈ tupleOverloads, ∀ p ∈ o.parameters, Bare p.name := by decide
  have hdistinct : ∀ o ∈ tupleOverloads, (o.parameters.map (·.name)).Nodup := by decide
  have hs : EndsSpread (Method.add { name := "Tuple" } tupleOverloads).merge := ⟨"others", by decide⟩
  exact ⟨hbare, hdistinct, hs,
    stub_hands_on_arguments hm tupleOverloads hbare hdistinct _ _ _ (.inr hs)⟩

end SchemaWrappers.Forwarding
