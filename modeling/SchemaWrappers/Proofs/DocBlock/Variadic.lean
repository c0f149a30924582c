import SchemaWrappers.Proofs.DocBlock.Lines
import SchemaWrappers.Proofs.Vocabulary.Endings

/-! The documented type of a parameter that takes the remaining arguments: brackets at the end of the text
are taken off, whatever they belong to. A union or an intersection whose last member is an array type is
shown without the brackets of that member. -/
namespace SchemaWrappers.DocBlock
open Surface Text

/-- How deep in brackets a text ends, and in which quotes. `escaped` is set behind a backslash in quotes,
`equals` behind the first character of an arrow, which closes no bracket. -/
structure Nesting where
  depth : Nat := 0
  quote : Option Char := none
  escaped : Bool := false
  equals : Bool := false

namespace Nesting

def quotes : List Char := ['"', '\x27', '\x60']

def openers : List Char := ['(', '[', '\x7b', '<']

def closers : List Char := [')', ']', '\x7d', '>']

def push (n : Nesting) (c : Char) : Nesting :=
  match n.quote with
  | some q =>
    if n.escaped then { n with escaped := false }
    else if c == '\\' then { n with escaped := true }
    else if c == q then { n with quote := none }
    else n
  | none =>
    if quotes.contains c then { n with quote := some c, equals := false }
    else if openers.contains c then { n with depth := n.depth + 1, equals := false }
    else if closers.contains c && !(n.equals && c == '>') then
      { n with depth := n.depth - 1, equals := false }
    else { n with equals := c == '=' }

/-- All brackets and quotes are closed. -/
def isOutside (n : Nesting) : Bool := n.depth == 0 && n.quote.isNone

end Nesting

def nesting (cs : List Char) : Nesting := cs.foldl Nesting.push {}

/-- Between the two parts of a type expression stands the mark of a union or of an intersection, outside
all brackets and quotes. -/
structure Joint (cs front back : List Char) : Prop where
  split : ∃ mark, (mark = '|' ∨ mark = '&') ∧ cs = front ++ mark :: back
  outside : (nesting front).isOutside = true

/-- The type expression is a union or an intersection. -/
def Joined (cs : List Char) : Prop := ∃ front back, Joint cs front back

def LastMember (cs member : List Char) : Prop :=
  (∃ front, Joint cs front member) ∧ ∀ front back, Joint cs front back → member.length ≤ back.length

/-- The text ends in a pair of brackets, blanks behind it apart. -/
def EndsInBrackets (cs : List Char) : Prop := ['[', ']'] <:+ trimmed cs

instance : DecidablePred EndsInBrackets :=
  fun cs => inferInstanceAs (Decidable (['[', ']'] <:+ trimmed cs))

theorem brackets_plain : ∀ c ∈ ['[', ']'], isNameChar c = false ∧ isBlank c = false := by
  intro c hc
  rcases List.mem_pair.mp hc with rfl | rfl
  · decide
  · decide

theorem exists_lastMember {cs : List Char} (h : Joined cs) : ∃ member, LastMember cs member := by
  obtain ⟨front, back, hjoint⟩ := h
  induction hn : back.length using Nat.strong_induction_on generalizing front back with
  | h n ih =>
    by_cases hlast : ∀ front' back', Joint cs front' back' → back.length ≤ back'.length
    · exact ⟨back, ⟨front, hjoint⟩, hlast⟩
    · simp only [not_forall, Nat.not_le] at hlast
      obtain ⟨front', back', hjoint', hlt⟩ := hlast
      exact ih _ (hn ▸ hlt) front' back' hjoint' rfl

theorem endsInBrackets_iff {cs : List Char} : EndsInBrackets cs ↔
    ∃ front blanks, cs = front ++ '[' :: ']' :: blanks ∧ ∀ c ∈ blanks, isBlank c = true := by
  constructor
  · rintro ⟨inner, hinner⟩
    obtain ⟨before, blanks, he, -, hblanks⟩ := exists_append_trimBoth isBlank cs
    refine ⟨before ++ inner, blanks, ?_, hblanks⟩
    rw [trimmed] at hinner
    rw [he, ← hinner]
    simp
  · rintro ⟨front, blanks, rfl, hblanks⟩
    have htrim : trimmed (front ++ '[' :: ']' :: blanks) = trimmed (front ++ ['[', ']']) := by
      have hback : trimmed ([] ++ ((front ++ ['[', ']']) ++ blanks)) = trimmed (front ++ ['[', ']']) :=
        trimmed_append_of_blank (by simp) hblanks
      simpa using hback
    have hlast : ∀ c ∈ (front ++ ['[', ']']).getLast?, isBlank c = false := by
      intro c hc
      obtain rfl : ']' = c := by simpa using hc
      decide
    rw [EndsInBrackets, htrim, suffix_trimmed_iff (fun c hc => (brackets_plain c hc).2) hlast]
    exact List.suffix_append ..

theorem endsInBrackets_member {cs front back : List Char} (h : Joint cs front back) :
    EndsInBrackets cs ↔ EndsInBrackets back := by
  obtain ⟨⟨mark, hmark, rfl⟩, -⟩ := h
  have hplain : mark ≠ '[' ∧ mark ≠ ']' ∧ isBlank mark = false := by
    rcases hmark with rfl | rfl
    · decide
    · decide
  rw [endsInBrackets_iff, endsInBrackets_iff]
  constructor
  · rintro ⟨inner, blanks, he, hblanks⟩
    rcases List.append_eq_append_iff.mp he with ⟨more, rfl, hmore⟩ | ⟨more, rfl, hmore⟩
    · cases more with
      | nil => exact absurd (List.cons.inj hmore).1 hplain.1
      | cons c more =>
        obtain ⟨-, hback⟩ := List.cons.inj hmore
        exact ⟨more, blanks, hback, hblanks⟩
    · have hmem : mark ∈ '[' :: ']' :: blanks := by
        rw [hmore]
        simp
      have hblank : isBlank mark = true := hblanks mark (by simpa [hplain.1, hplain.2.1] using hmem)
      rw [hplain.2.2] at hblank
      cases hblank
  · rintro ⟨inner, blanks, rfl, hblanks⟩
    exact ⟨front ++ mark :: inner, blanks, by simp, hblanks⟩

theorem name_of_parameter {m : Method} {x : String} {p : Parameter} (h : m.parameter x = .ok p) :
    p.name = x := by
  rw [Method.parameter] at h
  split at h
  · rename_i hfound
    obtain rfl := Except.ok.inj h
    simpa using List.find?_some hfound
  · cases h

variable {m : Method} {x : String} {p : Parameter} {t : String}

/-- Brackets at the end of a patched type are taken off a spread parameter, and nothing else is. -/
theorem shown_of_spread (patch : String → String) (ht : p.type = some t) (hne : t ≠ "") :
    (∀ element, patch t = element ++ "[]" → parameterType patch p true = "..." ++ element) ∧
      (parameterType patch p true = patch t ↔ ¬ ∃ element, patch t = element ++ "[]") := by
  have hgiven : given p.type = some t := by
    rw [ht, given, if_neg (by simpa using hne)]
  have hshown : ShownType patch (true = true) (given p.type) (parameterType patch p true) :=
    shownType_parameterType p true
  rw [hgiven] at hshown
  generalize parameterType patch p true = shown at hshown
  cases hshown with
  | @element _ y hy _ =>
    refine ⟨fun element he => ?_, iff_of_false (fun he => ?_) (not_not_intro ⟨y, hy⟩)⟩
    · rw [String.append_left_inj _ |>.mp (hy.symm.trans he)]
    · -- The dots are one character longer than the brackets.
      have hlength := congrArg String.length (he.trans hy)
      simp only [String.length_append] at hlength
      have hdots : "...".length = 3 := by decide
      have hbrackets : "[]".length = 2 := by decide
      omega
  | whole h =>
    have hnot : ¬ ∃ element, patch t = element ++ "[]" := fun he => h he rfl
    exact ⟨fun element he => absurd ⟨element, he⟩ hnot, iff_of_true rfl hnot⟩

theorem parameterTag_mem_tags {patch : String → String} (hp : m.parameter x = .ok p)
    (hrest : m.isRest x = .ok true) :
    ∃ optional, m.isOptional x = .ok optional ∧
      param (parameterType patch p true) x optional ∈ tags patch m := by
  have hoptional := Method.isOptional_of_parameter hp
  refine ⟨_, hoptional, ?_⟩
  have htag : param (parameterType patch p true) x
      (p.optional || m.overloads.any fun o => !o.declares x) = parameterTag patch m p := by
    rw [parameterTag, name_of_parameter hp, hrest, hoptional]
  rw [htag, tags]
  refine List.mem_append_left _ (List.mem_append_right _ ?_)
  exact List.mem_map_of_mem (Method.mem_merged_of_parameter hp)

/-- The tag of a parameter that closes the signature and takes the remaining arguments shows its type by
what stands before the brackets that the patched type ends in, and whole if it ends in none. Where the
tokens are names, these are the brackets at the end of the type as it is declared. So a union or an
intersection is shown whole exactly if its last member does not end in brackets; else it is shown without
the brackets of that member alone. -/
theorem closing_rest_type_shown {v : Vocabulary} {ns : String} (hp : m.parameter x = .ok p)
    (hrest : m.isRest x = .ok true) (ht : p.type = some t) (hne : t ≠ "") :
    let patch := v.patch ns
    let shown := parameterType patch p true
    (∃ optional, m.isOptional x = .ok optional ∧ param shown x optional ∈ tags patch m) ∧
      (∀ element, patch t = element ++ "[]" → shown = "..." ++ element) ∧
      (shown = patch t ↔ ¬ ∃ element, patch t = element ++ "[]") ∧
      ((∀ u ∈ v.tokens, u ≠ "" ∧ ∀ c ∈ u.toList, isNameChar c = true) →
        (shown = patch t ↔ ¬ EndsInBrackets t.toList) ∧
        (Joined t.toList → ∃ member, LastMember t.toList member ∧
          (shown = patch t ↔ ¬ EndsInBrackets member))) := by
  intro patch shown
  obtain ⟨helement, hwhole⟩ := shown_of_spread patch ht hne
  refine ⟨parameterTag_mem_tags hp hrest, helement, hwhole, fun hv => ?_⟩
  have hbrackets : (∃ element, patch t = element ++ "[]") ↔ EndsInBrackets t.toList := by
    rw [← suffix_brackets_iff]
    exact Vocabulary.suffix_patch_iff hv brackets_plain ns t
  rw [hbrackets] at hwhole
  refine ⟨hwhole, fun hjoined => ?_⟩
  obtain ⟨member, hmember⟩ := exists_lastMember hjoined
  obtain ⟨front, hjoint⟩ := hmember.1
  exact ⟨member, hmember, hwhole.trans (not_congr (endsInBrackets_member hjoint))⟩

/-- Bars and brackets stand in a literal, in type arguments and in parentheses before the last bar. -/
theorem nested_union_shown_whole :
    let v : Vocabulary := ⟨["C"]⟩
    let t := "Map<'a|b', (A | B)[]>[] | C"
    let p := classMethod.parameter t
    (classMethod t).parameter "p" = .ok p ∧ (classMethod t).isRest "p" = .ok true ∧
      p.type = some t ∧ t ≠ "" ∧ (∀ u ∈ v.tokens, u ≠ "" ∧ ∀ c ∈ u.toList, isNameChar c = true) ∧
      Joined t.toList ∧ parameterType (v.patch "box") p true = "Map<'a|b', (A | B)[]>[] | box.C" := by
  intro v t p
  have hp : (classMethod t).parameter "p" = .ok p := by decide
  have hrest : (classMethod t).isRest "p" = .ok true := by decide
  have hne : t ≠ "" := by decide
  have hv : ∀ u ∈ v.tokens, u ≠ "" ∧ u.toList.all isNameChar = true := by decide
  simp only [List.all_eq_true] at hv
  have hjoined : Joined t.toList :=
    ⟨"Map<'a|b', (A | B)[]>[] ".toList, " C".toList, ⟨'|', .inl rfl, by decide⟩, by decide⟩
  have hshown : parameterType (v.patch "box") p true = v.patch "box" t ↔ ¬ EndsInBrackets t.toList :=
    ((closing_rest_type_shown hp hrest rfl hne).2.2.2 hv).1
  refine ⟨hp, hrest, rfl, hne, hv, hjoined, (hshown.mpr (by decide)).trans ?_⟩
  decide +kernel

/-- A union of array types loses the brackets of its last member. -/
theorem union_of_arrays_cut :
    let v : Vocabulary := ⟨["TName"]⟩
    let t := "A[] | B[]"
    let m := classMethod t
    buildMethods (overloads (builders (classWith t) ["B"])) = .ok [m] ∧ m.isRest "p" = .ok true ∧
      Joined t.toList ∧ v.patch "typebox" t = "A[] | B[]" ∧
      " * @param \x7b...A[] | B\x7d p" ∈ tags (v.patch "typebox") m := by
  intro v t m
  have hjoined : Joined t.toList := ⟨"A[] ".toList, " B[]".toList, ⟨'|', .inl rfl, by decide⟩, by decide⟩
  exact ⟨by decide +kernel, by decide, hjoined, by decide +kernel, by decide +kernel⟩

end SchemaWrappers.DocBlock
