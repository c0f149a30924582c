import SchemaWrappers.Proofs.DocBlock.Lines

/-! Where a documentation block ends: texts of the source go into the comment as they are, and the
first of them to hold the end of a comment ends the block there. -/
namespace SchemaWrappers.DocBlock
open Surface Text

def Closes (s : String) : Prop := ClosesComment s.toList

instance : DecidablePred Closes := fun s => inferInstanceAs (Decidable (ClosesComment s.toList))

/-- No character of the text is one of the end of a comment. -/
def Clear (s : String) : Prop := ∀ c ∈ s.toList, Apart c

instance : DecidablePred Clear := fun s => List.decidableBAll Apart s.toList

/-- The text does not close the comment, nor does it together with what follows. -/
def StaysOpen (s : String) : Prop := ¬ Closes s ∧ ∀ c ∈ s.toList.getLast?, Apart c

instance : DecidablePred StaysOpen := fun s =>
  @instDecidableAnd _ _ inferInstance (Option.decidableForallMem (p := Apart) s.toList.getLast?)

theorem closes_clear_append {s : String} (h : Clear s) (t : String) : Closes (s ++ t) ↔ Closes t := by
  rw [Closes, String.toList_append, closesComment_append_of_apart h, Closes]

theorem closes_append_clear {t : String} (h : Clear t) (s : String) : Closes (s ++ t) ↔ Closes s := by
  rw [Closes, String.toList_append, closesComment_append_apart h, Closes]

theorem closes_append_clear_append {u : String} (hne : u.toList ≠ []) (h : Clear u) (s t : String) :
    Closes (s ++ (u ++ t)) ↔ Closes s ∨ Closes t := by
  rw [Closes, ← String.append_assoc, String.toList_append, String.toList_append,
    closesComment_append_append hne h, Closes, Closes]

theorem closes_append_of_staysOpen {s : String} (h : StaysOpen s) (t : String) :
    Closes (s ++ t) ↔ Closes t := by
  rw [Closes, String.toList_append, closesComment_append_of_last h.1 h.2, Closes]

theorem closes_description (m : Method) : Closes (description m.description) ↔ Closes m.name := by
  rw [description, description_eq, closes_append_of_staysOpen (by decide),
    closes_append_clear (by decide), closes_clear_append (by decide)]

theorem closes_param (type name : String) (optional : Bool) :
    Closes (param type name optional) ↔ Closes type ∨ Closes name := by
  have hname : Closes (if optional then "[" ++ name ++ "]" else name) ↔ Closes name := by
    cases optional with
    | true => rw [if_pos rfl, closes_append_clear (by decide), closes_clear_append (by decide)]
    | false => rfl
  rw [param, String.append_assoc, String.append_assoc, closes_append_of_staysOpen (by decide),
    closes_append_clear_append (by decide) (by decide), hname]

theorem closes_returns (type : String) : Closes (returns type) ↔ Closes type := by
  rw [returns, closes_append_clear (by decide), closes_append_of_staysOpen (by decide)]

theorem closes_template (name : String) (bound fallback : Option String) :
    Closes (template name bound fallback) ↔
      (∃ b ∈ given bound, Closes b) ∨ Closes name ∨ ∃ f ∈ given fallback, Closes f := by
  have hbound : ∀ t, Closes (((given bound).elim "" fun b => "\x7b" ++ b ++ "\x7d ") ++ t) ↔
      (∃ b ∈ given bound, Closes b) ∨ Closes t := by
    intro t
    cases given bound with
    | none => simp
    | some b =>
      rw [Option.elim_some, String.append_assoc, String.append_assoc, closes_clear_append (by decide),
        closes_append_clear_append (by decide) (by decide)]
      simp
  have hfallback : Closes ((given fallback).elim name fun f => "[" ++ name ++ "=" ++ f ++ "]") ↔
      Closes name ∨ ∃ f ∈ given fallback, Closes f := by
    cases given fallback with
    | none => simp
    | some f =>
      rw [Option.elim_some, closes_append_clear (by decide), String.append_assoc, String.append_assoc,
        closes_clear_append (by decide), closes_append_clear_append (by decide) (by decide)]
      simp
  rw [template_eq, String.append_assoc, closes_append_of_staysOpen (by decide), hbound, hfallback]

/-- An absent text and an empty one close nothing. -/
theorem closes_given (o : Option String) : (∃ s ∈ given o, Closes s) ↔ ∃ s ∈ o, Closes s := by
  cases o with
  | none => rfl
  | some t =>
    by_cases ht : t.isEmpty = true
    · obtain rfl := String.isEmpty_iff.mp ht
      have hempty : ¬ Closes "" := by decide
      simp [given, hempty]
    · rw [given, if_neg ht]

section
variable {patch : String → String} (hpatch : ∀ t, Closes (patch t) ↔ Closes t)
include hpatch

theorem closes_given_patch (o : Option String) :
    (∃ s ∈ given ((given o).map patch), Closes s) ↔ ∃ s ∈ o, Closes s := by
  rw [closes_given, ← closes_given o]
  cases given o with
  | none => simp
  | some t => simp [hpatch]

theorem closes_templateTag (t : TypeParameter) :
    Closes (templateTag patch t) ↔ ∃ s ∈ t.name :: (t.bound.toList ++ t.fallback.toList), Closes s := by
  rw [templateTag, closes_template, closes_given_patch hpatch, closes_given_patch hpatch]
  simp only [List.mem_cons, List.mem_append, Option.mem_toList, or_and_right, exists_or, exists_eq_left]
  exact or_left_comm

theorem closes_shownType {spread : Prop} {type : Option String} {shown : String}
    (h : ShownType patch spread type shown) : Closes shown ↔ ∃ t ∈ type, Closes t := by
  cases h with
  | unknown => exact iff_of_false (by decide) (by simp)
  | @element t x hx _ =>
    calc Closes ("..." ++ x)
      _ ↔ Closes x := closes_clear_append (by decide) x
      _ ↔ Closes (patch t) := by rw [hx, closes_append_clear (by decide)]
      _ ↔ Closes t := hpatch t
      _ ↔ ∃ s ∈ some t, Closes s := by simp
  | @whole t _ => simpa using hpatch t

theorem closes_parameterTag (m : Method) (p : Parameter) :
    Closes (parameterTag patch m p) ↔ ∃ s ∈ p.name :: p.type.toList, Closes s := by
  rw [parameterTag, closes_param, closes_shownType hpatch (shownType_parameterType p _), closes_given]
  simp only [List.mem_cons, Option.mem_toList, or_and_right, exists_or, exists_eq_left]
  exact or_comm

end

/-- The texts of the declarations that a block shows: the method's name, and the names and types of the
type parameters of the first overload, of the merged parameters, and of the first overload's result. -/
def texts (m : Method) : List String :=
  let first := m.overloads.head?
  m.name :: ((first.elim [] (·.typeParameters)).flatMap fun t =>
      t.name :: (t.bound.toList ++ t.fallback.toList)) ++
    (m.merged.flatMap fun p => p.name :: p.type.toList) ++
    (first.bind (·.returns)).toList

theorem exists_closes_flatMap {α : Type} {line : α → String} {shown : α → List String}
    (h : ∀ a, Closes (line a) ↔ ∃ s ∈ shown a, Closes s) (as : List α) :
    (∃ l ∈ as.map line, Closes l) ↔ ∃ s ∈ as.flatMap shown, Closes s := by
  induction as with
  | nil => rfl
  | cons a as ih =>
    rw [List.map_cons, List.flatMap_cons]
    simp only [List.mem_cons, List.mem_append, or_and_right, exists_or, exists_eq_left, h, ih]

theorem closes_tags {patch : String → String} (hpatch : ∀ t, Closes (patch t) ↔ Closes t) (m : Method) :
    (∃ l ∈ description m.description :: tags patch m, Closes l) ↔ ∃ s ∈ texts m, Closes s := by
  have hreturns : (∃ l ∈ ((m.overloads.head?.bind fun o => given o.returns).map
        fun r => returns (patch r)).toList, Closes l) ↔
      ∃ s ∈ (m.overloads.head?.bind (·.returns)).toList, Closes s := by
    cases m.overloads.head? with
    | none => rfl
    | some o =>
      simp only [Option.bind_some, Option.mem_toList, ← Option.mem_def]
      rw [← closes_given o.returns]
      cases given o.returns with
      | none => simp
      | some r => simp [closes_returns, hpatch]
  have htemplates := exists_closes_flatMap (closes_templateTag hpatch)
  have hparameters := exists_closes_flatMap (closes_parameterTag hpatch m)
  rw [tags, texts]
  simp only [List.mem_cons, List.mem_append, or_and_right, exists_or, exists_eq_left,
    closes_description, htemplates, hparameters, hreturns]
  simp only [or_assoc]

/-- The closing line is left to end the comment if neither the description nor a tag closes it. -/
theorem closesLast_block_iff (patch : String → String) (m : Method) :
    ClosesLast (block patch m).toList ↔
      ∀ l ∈ description m.description :: tags patch m, ¬ Closes l := by
  let before := ["/**", description m.description] ++
    if tags patch m = [] then [] else " *" :: tags patch m
  have hblock : (block patch m).toList =
      ['\n'].intercalate (before.map String.toList ++ [[' ', '*', '/']]) := by
    rw [block, lines_eq, blockLines, String.toList_intercalate, List.map_append]
    rfl
  have hopening : ¬ Closes "/**" := by decide
  have hempty : ¬ Closes " *" := by decide
  have hbefore : (∀ l ∈ before, ¬ Closes l) ↔
      ∀ l ∈ description m.description :: tags patch m, ¬ Closes l := by
    simp only [before]
    split
    · rename_i h
      simp [h, hopening]
    · simp [hopening, hempty]
  rw [hblock, closesLast_intercalate (by decide), List.forall_mem_map, ← hbefore]
  rfl

theorem closesLast_iff_texts {patch : String → String} (hpatch : ∀ t, Closes (patch t) ↔ Closes t)
    (m : Method) : ClosesLast (block patch m).toList ↔ ∀ s ∈ texts m, ¬ Closes s := by
  have htags := (closes_tags hpatch m).not
  simp only [not_exists, not_and] at htags
  rw [closesLast_block_iff, htags]

theorem closes_patch {v : Vocabulary} (hv : ∀ t ∈ v.tokens, t ≠ "" ∧ Clear t) {ns : String}
    (hns : ¬ Closes ns) (hhead : ns.toList.head? ≠ some '/') (type : String) :
    Closes (v.patch ns type) ↔ Closes type := by
  refine Vocabulary.closesComment_patch ?_ hns hhead type
  intro t ht
  obtain ⟨s, hs, rfl⟩ := Vocabulary.mem_longestFirst.mp ht
  exact ⟨fun he => (hv s hs).1 (String.toList_eq_nil_iff.mp he), (hv s hs).2⟩

/-- The block of a method ends its comment with its last two characters and not before, exactly if no
text that it shows holds the end of a comment: none of them is escaped. -/
theorem block_closes_once_iff {v : Vocabulary} (hv : ∀ t ∈ v.tokens, t ≠ "" ∧ Clear t) {ns : String}
    (hns : ¬ Closes ns) (hhead : ns.toList.head? ≠ some '/') (m : Method) :
    ClosesLast (block (v.patch ns) m).toList ↔ ∀ s ∈ texts m, ¬ Closes s :=
  closesLast_iff_texts (closes_patch hv hns hhead) m

theorem star_type_closes_once :
    let v : Vocabulary := ⟨Vocabulary.base ++ ["TName"]⟩
    (∀ t ∈ v.tokens, t ≠ "" ∧ Clear t) ∧ ¬ Closes "typebox" ∧ "typebox".toList.head? ≠ some '/' ∧
      ClosesLast (block (v.patch "typebox") (classMethod "'lib/*'[]")).toList := by
  refine ⟨by decide, by decide, by decide, ?_⟩
  exact (block_closes_once_iff (by decide) (by decide) (by decide) _).mpr (by decide)

/-- A literal type that holds the end of a comment ends the block in the middle of a line. -/
theorem literal_type_closes_early :
    let v : Vocabulary := ⟨Vocabulary.base ++ ["TName"]⟩
    let m := classMethod "'lib/*/index'[]"
    buildMethods (overloads (builders (classWith "'lib/*/index'[]") ["B"])) = .ok [m] ∧
      ¬ Closes "typebox" ∧ ¬ ClosesLast (block (v.patch "typebox") m).toList := by
  intro v m
  refine ⟨by decide +kernel, by decide, ?_⟩
  have hpatch : ∀ t, Closes (v.patch "typebox" t) ↔ Closes t :=
    closes_patch (by decide) (by decide) (by decide)
  rw [closesLast_iff_texts hpatch]
  intro h
  exact h "'lib/*/index'[]" (by decide) (by decide)

end SchemaWrappers.DocBlock
