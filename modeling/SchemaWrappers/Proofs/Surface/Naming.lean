import Mathlib.Data.List.Nodup
import Mathlib.Data.List.Perm.Subperm
import SchemaWrappers.Proofs.Surface.Exactness

/-! The names of parameters: identifiers keep theirs, and every other parameter gets the first free name
for its position. -/
namespace SchemaWrappers.Surface
open Syntax

/-- The name for a position with so many underscores before it. -/
def underscored (k position : Nat) : String :=
  String.ofList (List.replicate k '_') ++ s!"arg{position}"

theorem underscored_zero (position : Nat) : underscored 0 position = s!"arg{position}" :=
  String.empty_append

theorem underscored_succ (k position : Nat) :
    "_" ++ underscored k position = underscored (k + 1) position := by
  apply String.toList_inj.mp
  simp [underscored, List.replicate_succ]

private theorem toList_underscored (k position : Nat) :
    (underscored k position).toList =
      List.replicate k '_' ++ 'a' :: 'r' :: 'g' :: Nat.toDigits 10 position := by
  have harg : s!"arg{position}".toList = 'a' :: 'r' :: 'g' :: Nat.toDigits 10 position := by
    simp
    rfl
  rw [underscored, String.toList_append, String.toList_ofList, harg]

/-- A name tells its position and its underscores. -/
theorem underscored_inj {k l i j : Nat} (h : underscored k i = underscored l j) : k = l ∧ i = j := by
  have hl := congrArg String.toList h
  rw [toList_underscored, toList_underscored] at hl
  have hcount : ∀ (n : Nat) (cs : List Char),
      (List.replicate n '_' ++ 'a' :: cs).takeWhile (· == '_') = List.replicate n '_' := by
    intro n cs
    rw [List.takeWhile_append_of_pos (by simp [List.mem_replicate])]
    simp
  have hk : k = l := by
    have := congrArg (fun cs => (cs.takeWhile (· == '_')).length) hl
    simpa only [hcount, List.length_replicate] using this
  subst hk
  have hdigits : Nat.toDigits 10 i = Nat.toDigits 10 j := by simpa using hl
  have hread := congrArg (Nat.ofDigitChars 10 · 0) hdigits
  exact ⟨rfl, by simpa only [Nat.ofDigitChars_ten_toDigits] using hread⟩

/-- The loop that puts underscores before a name as long as it is taken ends with a name. -/
inductive Settles (taken : List String) : String → String → Prop where
  | free {name : String} (h : name ∉ taken) : Settles taken name name
  | again {name found : String} (h : name ∈ taken) (rest : Settles taken ("_" ++ name) found) :
      Settles taken name found

/-- The name with the fewest underscores that is not taken. -/
structure FirstFree (taken : List String) (position : Nat) (name : String) (k : Nat) : Prop where
  form : name = underscored k position
  free : name ∉ taken
  least : ∀ l < k, underscored l position ∈ taken

private theorem freeName_eq (taken : List String) (position fuel k : Nat) :
    ∃ l, freeName taken fuel (underscored k position) = underscored (k + l) position ∧
      (∀ m < l, underscored (k + m) position ∈ taken) ∧
      (l = fuel ∨ underscored (k + l) position ∉ taken) := by
  induction fuel generalizing k with
  | zero => exact ⟨0, rfl, by simp, .inl rfl⟩
  | succ fuel ih =>
    by_cases hk : underscored k position ∈ taken
    · obtain ⟨l, hname, hleast, hend⟩ := ih (k + 1)
      have hshift : k + (l + 1) = k + 1 + l := by omega
      refine ⟨l + 1, ?_, ?_, ?_⟩
      · rw [freeName, if_pos (List.contains_iff_mem.mpr hk), underscored_succ, hname, hshift]
      · intro m hm
        cases m with
        | zero => exact hk
        | succ m =>
          rw [show k + (m + 1) = k + 1 + m by omega]
          exact hleast m (by omega)
      · rw [hshift]
        exact hend.imp_left (congrArg (· + 1))
    · refine ⟨0, ?_, by simp, .inr hk⟩
      rw [freeName, if_neg (by rwa [List.contains_iff_mem])]
      rfl

/-- Some name with no more underscores than names are taken is free: they are too few for all. -/
private theorem exists_free (taken : List String) (position : Nat) :
    ∃ k ≤ taken.length, underscored k position ∉ taken := by
  by_contra hall
  simp only [not_exists, not_and, not_not] at hall
  have hsub : (List.range (taken.length + 1)).map (underscored · position) ⊆ taken := by
    intro name hname
    obtain ⟨k, hk, rfl⟩ := List.mem_map.mp hname
    exact hall k (Nat.lt_succ_iff.mp (List.mem_range.mp hk))
  have hnodup : ((List.range (taken.length + 1)).map (underscored · position)).Nodup :=
    List.nodup_range.map fun k l h => (underscored_inj h).1
  have := (hnodup.subperm hsub).length_le
  rw [List.length_map, List.length_range] at this
  omega

theorem firstFree_placeholder (taken : List String) (position : Nat) :
    ∃ k, FirstFree taken position (placeholder taken position) k := by
  obtain ⟨k, hname, hleast, hend⟩ := freeName_eq taken position taken.length 0
  rw [underscored_zero, Nat.zero_add] at hname
  simp only [Nat.zero_add] at hleast hend
  refine ⟨k, hname, ?_, hleast⟩
  rw [placeholder, hname]
  rcases hend with rfl | hend
  · obtain ⟨l, hl, hfree⟩ := exists_free taken position
    rcases Nat.lt_or_eq_of_le hl with hl | rfl
    · exact absurd (hleast l hl) hfree
    · exact hfree
  · exact hend

/-- The loop comes to the first free name from every name on the way to it. -/
private theorem settles_of_firstFree {taken : List String} {position k : Nat} {name : String}
    (h : FirstFree taken position name k) (l : Nat) (hl : l ≤ k) :
    Settles taken (underscored (k - l) position) name := by
  induction l with
  | zero =>
    rw [Nat.sub_zero, ← h.form]
    exact .free h.free
  | succ l ih =>
    refine .again (h.least _ (by omega)) ?_
    rw [underscored_succ, show k - (l + 1) + 1 = k - l by omega]
    exact ih (by omega)

theorem settles_placeholder (taken : List String) (position : Nat) :
    Settles taken s!"arg{position}" (placeholder taken position) := by
  obtain ⟨k, h⟩ := firstFree_placeholder taken position
  have := settles_of_firstFree h k (Nat.le_refl k)
  rwa [Nat.sub_self, underscored_zero] at this

example : placeholder ["_arg0", "arg1", "arg0"] 0 = "__arg0" := by decide +kernel

/-- A child of a parameter list that binds something other than the receiver. -/
inductive IsFormal (c : Node) : Formal → Prop where
  | single {pattern : Node} (kind : c.kind = "required_parameter" ∨ c.kind = "optional_parameter")
      (bound : c.child? "pattern" = some pattern) (other : pattern.kind ≠ "this")
      (one : pattern.kind ≠ "rest_pattern") : IsFormal c ⟨c, some pattern, false⟩
  | rest {pattern : Node} (kind : c.kind = "required_parameter" ∨ c.kind = "optional_parameter")
      (bound : c.child? "pattern" = some pattern) (all : pattern.kind = "rest_pattern") :
      IsFormal c ⟨c, pattern.namedChildren.head?, true⟩

/-- A formal binds the identifier of that name. -/
def Formal.Binds (s : Source) (f : Formal) (name : String) : Prop :=
  ∃ b, f.binding = some b ∧ b.kind = "identifier" ∧ s.textOf b = name

theorem ofNode?_eq_some_iff {c : Node} {f : Formal} : Formal.ofNode? c = some f ↔ IsFormal c f := by
  have hkind : c.kind ∈ parameterKinds ↔
      c.kind = "required_parameter" ∨ c.kind = "optional_parameter" := by
    simp [parameterKinds]
  unfold Formal.ofNode?
  rw [guard_bind_eq_some_iff, List.contains_iff_mem, hkind, Option.bind_eq_bind, Option.bind_eq_some_iff]
  constructor
  · rintro ⟨kind, pattern, bound, h⟩
    obtain ⟨other, h⟩ := guard_bind_eq_some_iff.mp h
    split at h
    · rename_i all
      obtain rfl := Option.some.inj h
      exact .rest kind bound (beq_iff_eq.mp all)
    · rename_i one
      obtain rfl := Option.some.inj h
      exact .single kind bound (by simpa using other) (by simpa using one)
  · rintro (⟨kind, bound, other, one⟩ | ⟨kind, bound, all⟩)
    · refine ⟨kind, _, bound, guard_bind_eq_some_iff.mpr ⟨by simpa using other, ?_⟩⟩
      rw [if_neg (by simpa using one)]
      rfl
    · refine ⟨kind, _, bound, guard_bind_eq_some_iff.mpr ⟨by simp [all], ?_⟩⟩
      rw [if_pos (by simpa using all)]
      rfl

theorem identifier?_eq_some_iff {s : Source} {f : Formal} {name : String} :
    f.identifier? s = some name ↔ f.Binds s name := by
  unfold Formal.identifier?
  rw [Option.bind_eq_bind, Option.bind_eq_some_iff]
  refine exists_congr fun b => and_congr_right fun _ => ?_
  rw [guard_bind_eq_some_iff, beq_iff_eq, Option.pure_def, Option.some.injEq]

/-- What a formal at a position is named, `ids` being the identifiers of the declaration. -/
inductive Named (s : Source) (ids : List String) (position : Nat) (f : Formal) (name : String) : Prop where
  | kept (h : f.Binds s name)
  | placed {k : Nat} (h : ∀ n, ¬ f.Binds s n) (first : FirstFree ids position name k)

/-- Beside identifiers, only names for earlier positions are taken. -/
structure TakenBefore (ids taken : List String) (position : Nat) : Prop where
  all : ids ⊆ taken
  later : ∀ k, ∀ i ≥ position, underscored k i ∈ taken → underscored k i ∈ ids

/-- Names for other positions are in the way of none. -/
theorem TakenBefore.firstFree {ids taken : List String} {position k : Nat} {name : String}
    (ht : TakenBefore ids taken position) (h : FirstFree taken position name k) :
    FirstFree ids position name k where
  form := h.form
  free := fun hname => h.free (ht.all hname)
  least := fun l hl => ht.later l position (Nat.le_refl _) (h.least l hl)

theorem TakenBefore.succ {ids taken : List String} {position : Nat} (h : TakenBefore ids taken position) :
    TakenBefore ids taken (position + 1) where
  all := h.all
  later := fun k i hi => h.later k i (by omega)

theorem TakenBefore.cons {ids taken : List String} {position : Nat} (h : TakenBefore ids taken position)
    (k : Nat) : TakenBefore ids (underscored k position :: taken) (position + 1) where
  all := fun _ hid => List.mem_cons_of_mem _ (h.all hid)
  later := by
    intro l i hi hmem
    rcases List.mem_cons.mp hmem with he | hmem
    · have := (underscored_inj he).2
      omega
    · exact h.later l i (by omega) hmem

theorem named_formalNames (s : Source) {ids taken : List String} {position : Nat} (fs : List Formal)
    (ht : TakenBefore ids taken position) {i : Nat} {f : Formal} (hf : fs[i]? = some f) :
    ∃ name, (formalNames s taken position fs)[i]? = some name ∧ Named s ids (position + i) f name := by
  induction fs generalizing taken position i with
  | nil => simp at hf
  | cons g gs ih =>
    cases hg : g.identifier? s with
    | some name =>
      rw [formalNames, hg]
      cases i with
      | zero =>
        obtain rfl : g = f := by simpa using hf
        exact ⟨name, rfl, .kept (identifier?_eq_some_iff.mp hg)⟩
      | succ i =>
        obtain ⟨name', hname, hn⟩ := ih ht.succ (by simpa using hf)
        exact ⟨name', hname, by rwa [Nat.add_right_comm] at hn⟩
    | none =>
      have hnot : ∀ n, ¬ g.Binds s n := by
        intro n hn
        rw [← identifier?_eq_some_iff, hg] at hn
        cases hn
      rw [formalNames, hg]
      obtain ⟨k, hk⟩ := firstFree_placeholder taken position
      cases i with
      | zero =>
        obtain rfl : g = f := by simpa using hf
        exact ⟨placeholder taken position, rfl, .placed hnot (ht.firstFree hk)⟩
      | succ i =>
        have ht' : TakenBefore ids (placeholder taken position :: taken) (position + 1) :=
          hk.form ▸ ht.cons k
        obtain ⟨name', hname, hn⟩ := ih ht' (by simpa using hf)
        exact ⟨name', hname, by rwa [Nat.add_right_comm] at hn⟩

theorem formalNames_length (s : Source) (taken : List String) (position : Nat) (fs : List Formal) :
    (formalNames s taken position fs).length = fs.length := by
  induction fs generalizing taken position with
  | nil => rfl
  | cons f fs ih =>
    rw [formalNames]
    cases f.identifier? s with
    | some name => exact congrArg (· + 1) (ih ..)
    | none => exact congrArg (· + 1) (ih ..)

/-- A placeholder is the name of no other parameter. -/
theorem Named.ne {s : Source} {ids : List String} {i j : Nat} {f g : Formal} {name other : String}
    (hf : Named s ids i f name) (hg : Named s ids j g other) (hij : i ≠ j)
    (hids : ∀ n, g.Binds s n → n ∈ ids) (hplaced : ∀ n, ¬ f.Binds s n) : name ≠ other := by
  rintro rfl
  rcases hf with h | ⟨-, first⟩
  · exact hplaced _ h
  · rcases hg with h | ⟨-, first'⟩
    · exact first.free (hids _ h)
    · exact hij (underscored_inj (first.form.symm.trans first'.form)).2

section
variable (s : Source) (n : Node)

def formals : List Formal := n.namedChildren.filterMap Formal.ofNode?

def identifiers : List String := (formals n).filterMap (·.identifier? s)

variable {s n} {i j : Nat} {f : Formal} {p q : Parameter}

theorem Formal.Binds.mem {name : String} (h : f.Binds s name) (hf : f ∈ formals n) :
    name ∈ identifiers s n :=
  List.mem_filterMap.mpr ⟨f, hf, identifier?_eq_some_iff.mpr h⟩

theorem parameters_length : (parameters s n).length = (formals n).length := by
  rw [parameters, List.length_zipWith, formalNames_length]
  exact Nat.min_self _

theorem parameters_getElem? (hf : (formals n)[i]? = some f) : ∃ name,
    (parameters s n)[i]? = some (parameterOf s f name) ∧ Named s (identifiers s n) i f name := by
  have ht : TakenBefore (identifiers s n) (identifiers s n) 0 := ⟨List.Subset.refl _, fun _ _ _ h => h⟩
  obtain ⟨name, hname, hn⟩ := named_formalNames s (formals n) ht hf
  rw [Nat.zero_add] at hn
  exact ⟨name, List.getElem?_zipWith_eq_some.mpr ⟨f, name, hf, hname, rfl⟩, hn⟩

/-- A parameter is named as the formal at its position. -/
theorem named_of_parameters (hp : (parameters s n)[i]? = some p) :
    ∃ f, (formals n)[i]? = some f ∧ Named s (identifiers s n) i f p.name := by
  have hi : i < (formals n).length := parameters_length ▸ (List.getElem?_eq_some_iff.mp hp).1
  have hf : (formals n)[i]? = some (formals n)[i] := List.getElem?_eq_getElem hi
  obtain ⟨name, hname, hn⟩ := parameters_getElem? hf
  obtain rfl := Option.some.inj (hname.symm.trans hp)
  exact ⟨_, hf, hn⟩

theorem parameters_name_ne (hij : i ≠ j) (hf : (formals n)[i]? = some f)
    (hplaced : ∀ name, ¬ f.Binds s name) (hp : (parameters s n)[i]? = some p)
    (hq : (parameters s n)[j]? = some q) : p.name ≠ q.name := by
  obtain ⟨f', hf', hn⟩ := named_of_parameters hp
  obtain ⟨g, hg, hn'⟩ := named_of_parameters hq
  obtain rfl := Option.some.inj (hf'.symm.trans hf)
  exact hn.ne hn' hij (fun _ h => h.mem (List.mem_of_getElem? hg)) hplaced

/-- Two names are distinct where one is a placeholder, and where both are identifiers if those are. -/
theorem parameters_names_nodup (h : (identifiers s n).Nodup) :
    ((parameters s n).map (·.name)).Nodup := by
  have hdistinct := List.pairwise_iff_getElem.mp (List.pairwise_filterMap.mp h)
  rw [List.Nodup, List.pairwise_map, List.pairwise_iff_getElem]
  intro i j hi hj hij
  have hp := List.getElem?_eq_getElem hi
  have hq := List.getElem?_eq_getElem hj
  obtain ⟨f, hf, hn⟩ := named_of_parameters hp
  obtain ⟨g, hg, hn'⟩ := named_of_parameters hq
  rcases hn with hkept | ⟨hnot, -⟩
  · rcases hn' with hkept' | ⟨hnot, -⟩
    · obtain ⟨hi', rfl⟩ := List.getElem?_eq_some_iff.mp hf
      obtain ⟨hj', rfl⟩ := List.getElem?_eq_some_iff.mp hg
      exact hdistinct i j hi' hj' hij _ (identifier?_eq_some_iff.mpr hkept) _
        (identifier?_eq_some_iff.mpr hkept')
    · exact (parameters_name_ne (Nat.ne_of_gt hij) hg hnot hq hp).symm
  · exact parameters_name_ne (Nat.ne_of_lt hij) hf hnot hp hq

end

/-- There is one parameter for each formal, in their order. Identifiers keep their names; each other
formal gets the name of its position with the fewest underscores that make it no identifier of the
declaration, earlier or later, whatever the other placeholders are. So placeholders differ from all
other names, names are distinct where identifiers are, and the loop that adds underscores ends. -/
theorem parameters_named (s : Source) (n : Node) :
    ∃ (fs : List Formal) (ids : List String),
      Lists (· < ·) (fun (k : Nat) f => ∃ c, n.namedChildren[k]? = some c ∧ IsFormal c f) fs ∧
      Lists (· < ·) (fun (k : Nat) name => ∃ f, fs[k]? = some f ∧ f.Binds s name) ids ∧
      (parameters s n).length = fs.length ∧
      (∀ (i : Nat) f, fs[i]? = some f → ∃ name,
        (parameters s n)[i]? = some (parameterOf s f name) ∧ Named s ids i f name) ∧
      (∀ (i j : Nat) f p q, i ≠ j → fs[i]? = some f → (∀ name, ¬ f.Binds s name) →
        (parameters s n)[i]? = some p → (parameters s n)[j]? = some q → p.name ≠ q.name) ∧
      (ids.Nodup → ((parameters s n).map (·.name)).Nodup) ∧
      ∀ taken position, Settles taken s!"arg{position}" (placeholder taken position) := by
  refine ⟨formals n, identifiers s n, ?_, ?_, parameters_length, fun _ _ => parameters_getElem?,
    fun _ _ _ _ _ => parameters_name_ne, parameters_names_nodup, settles_placeholder⟩
  · refine (Lists.filterMap Formal.ofNode? n.namedChildren).congr fun k f => ?_
    simp only [ofNode?_eq_some_iff]
  · refine (Lists.filterMap (·.identifier? s) (formals n)).congr fun k name => ?_
    simp only [identifier?_eq_some_iff]

end SchemaWrappers.Surface
