import SchemaWrappers.DocBlock
import SchemaWrappers.Proofs.Method.Queries
import SchemaWrappers.Proofs.MethodTable.Partition
import SchemaWrappers.Proofs.Surface.Texts
import SchemaWrappers.Proofs.Vocabulary.Characters

/-! Documentation blocks line by line: one line for each tag, however the types are written in the
source, and the parameter lines keep step with the signature. -/
namespace SchemaWrappers.DocBlock
open Surface Text

def Unbroken (s : String) : Prop := ∀ c ∈ s.toList, endsLine c = false

instance : DecidablePred Unbroken := fun s => List.decidableBAll (endsLine · = false) s.toList

theorem unbroken_append {s t : String} : Unbroken (s ++ t) ↔ Unbroken s ∧ Unbroken t := by
  simp only [Unbroken, String.toList_append, List.mem_append, or_imp, forall_and]

theorem unbroken_of_blanks {s : String}
    (h : ∀ c ∈ s.toList, isBlank c = true → endsLine c = false) : Unbroken s := by
  intro c hc
  cases he : endsLine c with
  | false => rfl
  | true => rw [← he, h c hc (isBlank_of_endsLine he)]

theorem unbroken_of_no_blank {s : String} (h : ∀ c ∈ s.toList, isBlank c = false) : Unbroken s :=
  unbroken_of_blanks fun c hc hb => absurd (h c hc) (by simp [hb])

theorem unbroken_of_oneLine {s : String} (h : OneLine s) : Unbroken s := by
  refine unbroken_of_blanks fun c hc hb => ?_
  obtain rfl := h.spaces c hc hb
  decide

theorem unbroken_patch {v : Vocabulary} {ns type : String} (hns : Unbroken ns) (ht : Unbroken type) :
    Unbroken (v.patch ns type) := by
  intro c hc
  rcases Vocabulary.mem_of_mem_patch hc with hc | hc | rfl
  · exact ht c hc
  · exact hns c hc
  · decide

def templateLine (patch : String → String) (t : TypeParameter) : String :=
  " * @template " ++ (t.bound.elim "" fun b => "\x7b" ++ patch b ++ "\x7d ") ++
    t.fallback.elim t.name fun f => "[" ++ t.name ++ "=" ++ patch f ++ "]"

/-- How a declared type is shown: as a star if there is none, and by its element type where it is an
array type and the signature spreads the parameter. -/
inductive ShownType (patch : String → String) (spread : Prop) : Option String → String → Prop where
  | unknown : ShownType patch spread none "*"
  | element {t x : String} (h : patch t = x ++ "[]") (hs : spread) :
      ShownType patch spread (some t) ("..." ++ x)
  | whole {t : String} (h : (∃ x, patch t = x ++ "[]") → ¬ spread) :
      ShownType patch spread (some t) (patch t)

/-- The line documents the parameter `x`, which the signature has as `entry`: it ends in the bare
name, in brackets exactly if the parameter is optional. -/
def ParameterLine (patch : String → String) (m : Method) (x entry line : String) : Prop :=
  ∃ p optional type, m.parameter x = .ok p ∧ m.isOptional x = .ok optional ∧
    (entry = x ∨ entry = "..." ++ x) ∧ ShownType patch (entry = "..." ++ x) p.type type ∧
    line = " * @param \x7b" ++ type ++ "\x7d " ++ if optional then "[" ++ x ++ "]" else x

variable {patch : String → String} {m : Method}

theorem given_of_oneLine {o : Option String} (h : ∀ t ∈ o, OneLine t) : given o = o := by
  cases o with
  | none => rfl
  | some t =>
    have hne : t.isEmpty = false := by
      obtain ⟨c, hc, -⟩ := (h t rfl).visible
      rw [← Bool.not_eq_true, String.isEmpty_iff]
      rintro rfl
      cases hc
    rw [given, hne]
    rfl

theorem given_map_of_oneLine {o : Option String} (h : ∀ t ∈ o, OneLine t)
    (hpatch : ∀ t, OneLine t → patch t ≠ "") : given (o.map patch) = o.map patch := by
  cases o with
  | none => rfl
  | some t => simp [given, hpatch t (h t rfl)]

theorem template_eq (name : String) (bound fallback : Option String) :
    template name bound fallback =
      " * @template " ++ ((given bound).elim "" fun b => "\x7b" ++ b ++ "\x7d ") ++
        (given fallback).elim name fun f => "[" ++ name ++ "=" ++ f ++ "]" := by
  rw [template]
  cases given bound <;> cases given fallback <;>
    simp only [Option.elim_none, Option.elim_some, String.append_assoc]

theorem templateTag_eq {t : TypeParameter} (hb : ∀ s ∈ t.bound, OneLine s)
    (hf : ∀ s ∈ t.fallback, OneLine s) (hpatch : ∀ s, OneLine s → patch s ≠ "") :
    templateTag patch t = templateLine patch t := by
  rw [templateTag, template_eq, given_of_oneLine hb, given_of_oneLine hf,
    given_map_of_oneLine hb hpatch, given_map_of_oneLine hf hpatch, Option.elim_map, Option.elim_map]
  rfl

theorem spread_iff {r : Bool} (x : String) : (if r then "..." ++ x else x) = "..." ++ x ↔ r = true := by
  cases r with
  | true => simp
  | false =>
    refine iff_of_false (fun h => ?_) Bool.false_ne_true
    have hl := congrArg String.length h
    simp at hl

theorem suffix_brackets_iff (s : String) :
    "[]".toList <:+ s.toList ↔ ∃ x, s = x ++ "[]" := by
  constructor
  · rintro ⟨cs, hcs⟩
    exact ⟨String.ofList cs, by rw [← String.toList_inj, String.toList_append, String.toList_ofList, hcs]⟩
  · rintro ⟨x, rfl⟩
    exact ⟨x.toList, String.toList_append.symm⟩

theorem shownType_parameterType (p : Parameter) (r : Bool) :
    ShownType patch (r = true) (given p.type) (parameterType patch p r) := by
  rw [parameterType]
  cases given p.type with
  | none => exact .unknown
  | some t =>
    dsimp only
    split
    · rename_i h
      rw [Bool.and_eq_true, List.isSuffixOf_iff_suffix, suffix_brackets_iff] at h
      obtain ⟨hr, x, hx⟩ := h
      have htake : (patch t).toList.take ((patch t).toList.length - 2) = x.toList := by
        rw [hx, String.toList_append, List.length_append]
        exact List.take_left' (by simp)
      rw [htake, String.ofList_toList]
      exact .element hx hr
    · rename_i h
      rw [Bool.and_eq_true, List.isSuffixOf_iff_suffix, suffix_brackets_iff] at h
      exact .whole fun hx hr => h ⟨hr, hx⟩

theorem parameterLine_parameterTag (hd : m.parameterNames.Nodup) {p : Parameter} (hp : p ∈ m.merged)
    (ht : ∀ t ∈ p.type, OneLine t) :
    ParameterLine patch m p.name (m.rendered p.name) (parameterTag patch m p) := by
  have hpar := Method.parameter_of_mem_merged hd hp
  have hrest := Method.isRest_of_parameter hpar
  have hoptional := Method.isOptional_of_parameter hpar
  refine ⟨p, _, parameterType patch p (p.rest && m.parameterNames.getLast? == some p.name),
    hpar, hoptional, m.rendered_cases _, ?_, ?_⟩
  · rw [Method.rendered_of_isRest hrest, spread_iff, ← given_of_oneLine ht]
    exact shownType_parameterType p _
  · rw [parameterTag, hrest, hoptional]
    rfl

def tagLines (patch : String → String) (first : Overload) (params : List String) : List String :=
  first.typeParameters.map (templateLine patch) ++ params ++
    (first.returns.map fun r => " * @returns \x7b" ++ patch r ++ "\x7d").toList

theorem tags_eq {first : Overload} (hf : m.overloads.head? = some first) (h : OneLiners first)
    (hpatch : ∀ t, OneLine t → patch t ≠ "") :
    tags patch m = tagLines patch first (m.merged.map (parameterTag patch m)) := by
  have htemplates : first.typeParameters.map (templateTag patch) =
      first.typeParameters.map (templateLine patch) :=
    List.map_congr_left fun q hq => templateTag_eq (h.bounds q hq) (h.fallbacks q hq) hpatch
  rw [tags, hf]
  simp only [Option.elim_some, Option.bind_some, given_of_oneLine h.returns, htemplates, tagLines]
  rfl

theorem unbroken_templateLine {t : TypeParameter} (hname : Unbroken t.name)
    (hb : ∀ s ∈ t.bound, Unbroken (patch s)) (hf : ∀ s ∈ t.fallback, Unbroken (patch s)) :
    Unbroken (templateLine patch t) := by
  rw [templateLine, unbroken_append, unbroken_append]
  refine ⟨⟨by decide, ?_⟩, ?_⟩
  · cases hbound : t.bound with
    | none => exact (by decide : Unbroken "")
    | some b =>
      simp only [Option.elim_some, unbroken_append]
      exact ⟨⟨by decide, hb b hbound⟩, by decide⟩
  · cases hfallback : t.fallback with
    | none => exact hname
    | some f =>
      simp only [Option.elim_some, unbroken_append]
      exact ⟨⟨⟨⟨by decide, hname⟩, by decide⟩, hf f hfallback⟩, by decide⟩

theorem ShownType.unbroken {spread : Prop} {type : Option String} {shown : String}
    (h : ShownType patch spread type shown) (ht : ∀ t ∈ type, Unbroken (patch t)) :
    Unbroken shown := by
  cases h with
  | unknown => decide
  | element hx _ =>
    have hpatch := ht _ rfl
    rw [hx, unbroken_append] at hpatch
    exact unbroken_append.mpr ⟨by decide, hpatch.1⟩
  | whole _ => exact ht _ rfl

theorem ParameterLine.unbroken {x entry line : String} (h : ParameterLine patch m x entry line)
    (hx : Unbroken x) (ht : ∀ p ∈ m.merged, ∀ t ∈ p.type, Unbroken (patch t)) : Unbroken line := by
  obtain ⟨p, optional, type, hp, -, -, htype, rfl⟩ := h
  have hshown := htype.unbroken (ht p (Method.mem_merged_of_parameter hp))
  rw [unbroken_append, unbroken_append, unbroken_append]
  refine ⟨⟨⟨by decide, hshown⟩, by decide⟩, ?_⟩
  cases optional with
  | true =>
    rw [if_pos rfl, unbroken_append, unbroken_append]
    exact ⟨⟨by decide, hx⟩, by decide⟩
  | false => exact hx

theorem lines_block (h : ∀ l ∈ lines patch m, Unbroken l) :
    Text.lines (block patch m).toList = (lines patch m).map String.toList := by
  rw [block, String.toList_intercalate]
  apply lines_intercalate
  · intro l hl
    obtain ⟨s, hs, rfl⟩ := List.mem_map.mp hl
    exact h s hs
  · intro l hl
    rw [lines, List.map_append, List.map_singleton, List.getLast?_concat] at hl
    obtain rfl := Option.some.inj hl
    decide

theorem description_eq (m : Method) :
    m.description = "Creates a schema for a `" ++ m.name ++ "` type." := rfl

theorem unbroken_of_mem_lines (hname : Unbroken m.name) (htags : ∀ l ∈ tags patch m, Unbroken l) :
    ∀ l ∈ lines patch m, Unbroken l := by
  have hdescription : Unbroken (description m.description) := by
    rw [description, description_eq, unbroken_append, unbroken_append, unbroken_append]
    exact ⟨by decide, ⟨by decide, hname⟩, by decide⟩
  intro l hl
  rw [lines, List.mem_append, List.mem_append, List.mem_singleton] at hl
  obtain (hl | hl) | rfl := hl
  · obtain rfl | rfl : l = opening ∨ l = description m.description := by simpa using hl
    · decide
    · exact hdescription
  · split at hl
    · cases hl
    · rcases List.mem_cons.mp hl with rfl | hl
      · decide
      · exact htags l hl
  · decide

def blockLines (description : String) (tags : List String) : List String :=
  ["/**", " * " ++ description] ++ (if tags = [] then [] else " *" :: tags) ++ [" */"]

theorem lines_eq (patch : String → String) (m : Method) :
    lines patch m = blockLines m.description (tags patch m) := by
  simp only [lines, List.isEmpty_iff]
  rfl

theorem unbroken_of_mem_tagLines {first : Overload} {params : List String}
    (hnames : ∀ q ∈ first.typeParameters, Unbroken q.name) (h : OneLiners first)
    (hpatch : ∀ t, OneLine t → Unbroken (patch t)) (hparams : ∀ l ∈ params, Unbroken l) :
    ∀ l ∈ tagLines patch first params, Unbroken l := by
  intro l hl
  rw [tagLines, List.mem_append, List.mem_append] at hl
  obtain (hl | hl) | hl := hl
  · obtain ⟨q, hq, rfl⟩ := List.mem_map.mp hl
    exact unbroken_templateLine (hnames q hq) (fun b hb => hpatch b (h.bounds q hq b hb))
      fun f hf => hpatch f (h.fallbacks q hq f hf)
  · exact hparams l hl
  · obtain ⟨r, hr, rfl⟩ := Option.map_eq_some_iff.mp (Option.mem_toList.mp hl)
    rw [unbroken_append, unbroken_append]
    exact ⟨⟨by decide, hpatch r (h.returns r hr)⟩, by decide⟩

def names (o : Overload) : List String :=
  o.name :: (o.parameters.map (·.name) ++ o.typeParameters.map (·.name))

/-- The block of a method reads line by line as the overload that is documented and the lines of the
parameters make it, and the line of each parameter agrees with its entry in the signature. -/
structure Documents (patch : String → String) (m : Method) (first : Overload) (params : List String) :
    Prop where
  head : m.overloads.head? = some first
  lines : Text.lines (block patch m).toList =
    (blockLines m.description (tagLines patch first params)).map String.toList
  merged : params.length = m.merged.length
  rendered : params.length = m.renderedParameters.length
  agree : ∀ k < params.length, ∃ x entry line, m.parameterNames[k]? = some x ∧
    m.renderedParameters[k]? = some entry ∧ params[k]? = some line ∧
    ParameterLine patch m x entry line

section
variable {first : Overload} (hhead : m.overloads.head? = some first) (hd : m.parameterNames.Nodup)
  (hfirst : OneLiners first) (hmerged : ∀ p ∈ m.merged, ∀ t ∈ p.type, OneLine t)
  (hpatch : ∀ t, OneLine t → patch t ≠ "" ∧ Unbroken (patch t))
include hhead hd hfirst hmerged hpatch

theorem documents_merged (hname : Unbroken m.name)
    (htypeParameters : ∀ q ∈ first.typeParameters, Unbroken q.name)
    (hparameters : ∀ p ∈ m.merged, Unbroken p.name) :
    Documents patch m first (m.merged.map (parameterTag patch m)) := by
  have hline : ∀ p ∈ m.merged,
      ParameterLine patch m p.name (m.rendered p.name) (parameterTag patch m p) :=
    fun p hp => parameterLine_parameterTag hd hp (hmerged p hp)
  refine ⟨hhead, ?_, ?_, ?_, ?_⟩
  · have hparams : ∀ l ∈ m.merged.map (parameterTag patch m), Unbroken l := by
      intro l hl
      obtain ⟨p, hp, rfl⟩ := List.mem_map.mp hl
      exact (hline p hp).unbroken (hparameters p hp) fun p hp t ht => (hpatch t (hmerged p hp t ht)).2
    have htags := tags_eq hhead hfirst fun t ht => (hpatch t ht).1
    have hunbroken := unbroken_of_mem_tagLines htypeParameters hfirst (fun t ht => (hpatch t ht).2) hparams
    rw [lines_block (unbroken_of_mem_lines hname (htags ▸ hunbroken)), lines_eq, htags]
  · rw [List.length_map]
  · rw [Method.renderedParameters, Method.parameterNames, List.length_map, List.length_map,
      List.length_map]
  · intro k hk
    rw [List.length_map] at hk
    have hat := List.getElem?_eq_getElem hk
    refine ⟨_, _, _, ?_, ?_, ?_, hline m.merged[k] (List.getElem_mem hk)⟩
    · rw [Method.parameterNames, List.getElem?_map, hat, Option.map_some]
    · rw [Method.renderedParameters, Method.parameterNames, List.getElem?_map, List.getElem?_map, hat,
        Option.map_some, Option.map_some]
    · rw [List.getElem?_map, hat, Option.map_some]

end

/-- However many lines the types of a collected method take up in the source, its block splits into the
opening, the description, an empty line before the tags if there are any, one line for each type
parameter of the first overload, one for each merged parameter, one for the result of the first
overload if it has one, and the closing. -/
theorem collected_block_lines {p : Program} {allowed : List String} {ms : List Method}
    (hms : buildMethods (overloads (builders p allowed)) = .ok ms)
    (hnames : ∀ o ∈ overloads (builders p allowed), ∀ x ∈ names o, ∀ c ∈ x.toList, isBlank c = false)
    (v : Vocabulary) {ns : String} (hns : Unbroken ns) {m : Method} (hm : m ∈ ms) :
    ∃ first params, Documents (v.patch ns) m first params := by
  obtain ⟨⟨o, ho, hname⟩, ⟨first, hfirst, hhead⟩, hmerged, hd⟩ :=
    MethodTable.madeFrom_of_mem_methods hms hm
  have hunbroken : ∀ o ∈ overloads (builders p allowed), ∀ x ∈ names o, Unbroken x :=
    fun o ho x hx => unbroken_of_no_blank (hnames o ho x hx)
  have htypes : ∀ q ∈ m.merged, ∀ t ∈ q.type, OneLine t := by
    intro q hq
    obtain ⟨o, ho, hq⟩ := hmerged q hq
    exact (oneLiners_of_mem_overloads ho).types q hq
  have hpatch : ∀ t, OneLine t → v.patch ns t ≠ "" ∧ Unbroken (v.patch ns t) := fun t ht =>
    ⟨Vocabulary.patch_ne_empty ht.visible, unbroken_patch hns (unbroken_of_oneLine ht)⟩
  refine ⟨first, _, documents_merged hhead hd (oneLiners_of_mem_overloads hfirst) htypes hpatch ?_ ?_ ?_⟩
  · exact hunbroken o ho m.name (hname ▸ List.mem_cons_self ..)
  · intro q hq
    exact hunbroken first hfirst q.name
      (List.mem_cons_of_mem _ (List.mem_append_right _ (List.mem_map_of_mem hq)))
  · intro q hq
    obtain ⟨o, ho, hq⟩ := hmerged q hq
    exact hunbroken o ho q.name
      (List.mem_cons_of_mem _ (List.mem_append_left _ (List.mem_map_of_mem hq)))

theorem union_over_lines_documented :
    let patch := (⟨["T"]⟩ : Vocabulary).patch "box"
    let m := classMethod "(string | T)[]"
    buildMethods (overloads (builders (classWith "(string\n |\u2028 T)[]") ["B"])) = .ok [m] ∧
      (∃ first params, Documents patch m first params) ∧
      Text.lines (block patch m).toList = ["/**", " * Creates a schema for a `Name` type.", " *",
        " * @template K", " * @param \x7b...(string | box.T)\x7d p", " * @returns \x7bbox.T\x7d",
        " */"].map String.toList := by
  intro patch m
  have hms : buildMethods (overloads (builders (classWith "(string\n |\u2028 T)[]") ["B"])) =
      .ok [m] := by
    decide +kernel
  have hnames : ∀ o ∈ overloads (builders (classWith "(string\n |\u2028 T)[]") ["B"]),
      ∀ x ∈ names o, x.toList.all (!isBlank ·) = true := by
    decide +kernel
  simp only [List.all_eq_true, Bool.not_eq_true'] at hnames
  refine ⟨hms, ?_, by decide +kernel⟩
  exact collected_block_lines hms hnames ⟨["T"]⟩ (by decide) (List.mem_singleton_self m)

end SchemaWrappers.DocBlock
