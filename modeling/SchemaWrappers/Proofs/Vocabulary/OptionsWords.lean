import SchemaWrappers.Proofs.Places
import SchemaWrappers.Proofs.Text.Kinds
import SchemaWrappers.Proofs.Text.Pieces
import SchemaWrappers.Vocabulary

/-! Which options words a text has: its maximal runs of word characters that end in `Options` with
something before that, and that a space follows. -/
namespace SchemaWrappers.Vocabulary
open Text

/-- An options interface is named by word characters, by more of them than the ending. -/
structure IsOptionsName (w : List Char) : Prop where
  word : ∀ c ∈ w, isWord c = true
  ending : ∃ head, head ≠ [] ∧ w = head ++ "Options".toList

/-- The name of an options interface stands at an offset of the text: no word character is right
before it, and a space is right behind. -/
def OptionsWordAt (text : List Char) (i : Nat) (w : List Char) : Prop :=
  ∃ front rest, text = front ++ (w ++ ' ' :: rest) ∧ front.length = i ∧
    front.getLast?.any isWord = false ∧ IsOptionsName w

theorem optionsEnding_eq : optionsEnding = "Options".toList ++ [' '] := by decide

section
variable {run tail read rest : List Char}

private theorem optionsAt_of_not_word (ht : tail.head?.any isWord = false) : optionsAt tail = none := by
  cases tail with
  | nil => rfl
  | cons c tail => rw [optionsAt, if_neg (by simpa using ht)]

private theorem isPrefixOf_optionsEnding (hr : ∀ c ∈ run, isWord c = true)
    (ht : tail.head?.any isWord = false) :
    optionsEnding.isPrefixOf (run ++ tail) = true ↔ run = "Options".toList ∧ ∃ rest, tail = ' ' :: rest := by
  rw [List.isPrefixOf_iff_prefix, optionsEnding_eq]
  constructor
  · rintro ⟨rest, h⟩
    rw [List.append_assoc] at h
    have hrun := congrArg (List.takeWhile isWord) h
    rw [takeWhile_run hr ht, takeWhile_run (List.all_eq_true.mp (by decide)) (by rfl)] at hrun
    subst hrun
    exact ⟨rfl, rest, (List.append_cancel_left h).symm⟩
  · rintro ⟨rfl, rest, rfl⟩
    exact ⟨rest, by rw [List.append_assoc]; rfl⟩

theorem not_isOptionsName_nil : ¬ IsOptionsName [] := by
  rintro ⟨-, head, -, h⟩
  exact absurd (List.append_eq_nil_iff.mp h.symm).2 (by decide)

theorem isOptionsName_cons {c : Char} (hr : ∀ d ∈ c :: run, isWord d = true) :
    IsOptionsName (c :: run) ↔ IsOptionsName run ∨ run = "Options".toList := by
  constructor
  · rintro ⟨-, head, hne, h⟩
    obtain ⟨d, head, rfl⟩ := List.exists_cons_of_ne_nil hne
    obtain ⟨rfl, rfl⟩ := List.cons.inj h
    cases head with
    | nil => exact .inr rfl
    | cons d head =>
      exact .inl ⟨fun c hc => hr c (List.mem_cons_of_mem _ hc), d :: head, List.cons_ne_nil _ _, rfl⟩
  · rintro (⟨-, head, -, rfl⟩ | rfl)
    · exact ⟨hr, c :: head, List.cons_ne_nil _ _, rfl⟩
    · exact ⟨hr, [c], List.cons_ne_nil _ _, rfl⟩

theorem optionsAt_eq_some_iff (hr : ∀ c ∈ run, isWord c = true) (ht : tail.head?.any isWord = false) :
    optionsAt (run ++ tail) = some (read, rest) ↔
      IsOptionsName run ∧ tail = ' ' :: rest ∧ read = run ++ [' '] := by
  induction run generalizing read rest with
  | nil =>
    rw [List.nil_append, optionsAt_of_not_word ht]
    simp [not_isOptionsName_nil]
  | cons c run ih =>
    have hrun : ∀ d ∈ run, isWord d = true := fun d hd => hr d (List.mem_cons_of_mem _ hd)
    rw [List.cons_append, optionsAt, if_pos (hr c (List.mem_cons_self ..)), isOptionsName_cons hr]
    cases h : optionsAt (run ++ tail) with
    | some found =>
      obtain ⟨hname, rfl, hread⟩ := (ih hrun).mp h
      simp [hname, hread, eq_comm, and_comm]
    | none =>
      -- Nothing is found behind this character, so only the bare ending can stand there.
      have hno : ∀ rest, tail = ' ' :: rest → ¬ IsOptionsName run := by
        intro rest htail hname
        have := (ih hrun).mpr ⟨hname, htail, rfl⟩
        rw [h] at this
        cases this
      by_cases hp : optionsEnding.isPrefixOf (run ++ tail) = true
      · rw [if_pos hp]
        obtain ⟨rfl, more, rfl⟩ := (isPrefixOf_optionsEnding hrun ht).mp hp
        have hfound : (c :: optionsEnding, ("Options".toList ++ ' ' :: more).drop optionsEnding.length) =
            (c :: "Options".toList ++ [' '], more) := by
          rw [optionsEnding_eq]
          rfl
        rw [hfound, Option.some.injEq, Prod.mk.injEq]
        constructor
        · rintro ⟨rfl, rfl⟩
          exact ⟨.inr rfl, rfl, rfl⟩
        · rintro ⟨-, hmore, rfl⟩
          exact ⟨rfl, (List.cons.inj hmore).2⟩
      · rw [if_neg hp]
        refine iff_of_false (by simp) ?_
        rintro ⟨hname | rfl, rfl, -⟩
        · exact hno rest rfl hname
        · exact hp ((isPrefixOf_optionsEnding hrun ht).mpr ⟨rfl, rest, rfl⟩)

theorem optionsWords_of_some {cs : List Char} (h : optionsAt cs = some (read, rest)) :
    optionsWords cs = trimmed read :: optionsWords rest := by
  rw [optionsWords.eq_def]
  split
  · rename_i h'
    rw [h] at h'
    cases h'
    rfl
  · rename_i h'
    rw [h] at h'
    cases h'

theorem optionsWords_of_none {c : Char} {cs : List Char} (h : optionsAt (c :: cs) = none) :
    optionsWords (c :: cs) = optionsWords cs := by
  rw [optionsWords.eq_def]
  split
  · rename_i h'
    rw [h] at h'
    cases h'
  · rfl

theorem optionsWords_nil : optionsWords [] = [] := by
  rw [optionsWords.eq_def]
  rfl

theorem optionsWords_name (hname : IsOptionsName run) :
    optionsWords (run ++ ' ' :: rest) = run :: optionsWords rest := by
  have ht : (' ' :: rest).head?.any isWord = false := rfl
  have hat := (optionsAt_eq_some_iff hname.word ht).mpr ⟨hname, rfl, rfl⟩
  rw [optionsWords_of_some hat, trimmed_concat_of_blank rfl,
    trimmed_of_forall_not_blank fun c hc => not_blank_of_isWord (hname.word c hc)]

theorem optionsWords_run (hr : ∀ c ∈ run, isWord c = true) (ht : tail.head?.any isWord = false)
    (hno : ∀ rest, tail = ' ' :: rest → ¬ IsOptionsName run) :
    optionsWords (run ++ tail) = optionsWords tail := by
  induction run with
  | nil => rfl
  | cons c run ih =>
    have hnone : optionsAt (c :: run ++ tail) = none := by
      rw [Option.eq_none_iff_forall_ne_some]
      rintro ⟨read, rest⟩ h
      obtain ⟨hname, htail, -⟩ := (optionsAt_eq_some_iff hr ht).mp h
      exact hno rest htail hname
    rw [List.cons_append] at hnone ⊢
    rw [optionsWords_of_none hnone]
    refine ih (fun d hd => hr d (List.mem_cons_of_mem _ hd)) fun rest htail hname => ?_
    exact hno rest htail ((isOptionsName_cons hr).mpr (.inl hname))

theorem optionsWords_gap {c : Char} (hc : isWord c = false) :
    optionsWords (c :: rest) = optionsWords rest :=
  optionsWords_of_none (optionsAt_of_not_word hc)

end

theorem isWord_space : isWord ' ' = false := by decide

/-- The options words of a text with a run of word characters at its head: perhaps the run, and those
behind the character that ends it. -/
theorem optionsWordAt_run_iff {run rest w : List Char} {c : Char} {i : Nat}
    (hr : ∀ d ∈ run, isWord d = true) (hc : isWord c = false) :
    OptionsWordAt (run ++ c :: rest) i w ↔
      (i = 0 ∧ w = run) ∧ c = ' ' ∧ IsOptionsName run ∨
        ∃ j, i = run.length + 1 + j ∧ OptionsWordAt rest j w := by
  constructor
  · rintro ⟨front, rest', h, rfl, hfront, hname⟩
    rcases List.append_eq_append_iff.mp h with ⟨more, rfl, hrest⟩ | ⟨more, hrun, hw⟩
    · -- The word begins behind the run: not at the character that ends it, which is no word character.
      cases more with
      | nil =>
        cases w with
        | nil => exact absurd hname not_isOptionsName_nil
        | cons d w =>
          rw [(List.cons.inj hrest).1, hname.word d (List.mem_cons_self ..)] at hc
          cases hc
      | cons d more =>
        obtain ⟨rfl, rfl⟩ := List.cons.inj hrest
        refine .inr ⟨more.length, by simp; omega, more, rest', rfl, rfl, ?_, hname⟩
        cases more with
        | nil => rfl
        | cons d more => rwa [List.getLast?_append_cons, List.getLast?_cons_cons] at hfront
    · -- It begins in the run, so where the run begins.
      have hnil : front = [] := by
        rcases List.eq_nil_or_concat front with rfl | ⟨front, d, rfl⟩
        · rfl
        · rw [List.concat_eq_append, List.getLast?_concat, Option.any_some, hr d (by simp [hrun])] at hfront
          cases hfront
      subst hnil
      rw [List.nil_append] at hrun
      subst hrun
      have hword := congrArg (List.takeWhile isWord) hw
      rw [takeWhile_run hname.word rfl, takeWhile_run hr (by simpa using hc)] at hword
      subst hword
      exact .inl ⟨⟨rfl, rfl⟩, (List.cons.inj (List.append_cancel_left hw)).1.symm, hname⟩
  · rintro (⟨⟨rfl, rfl⟩, rfl, hname⟩ | ⟨j, rfl, front, rest', rfl, rfl, hfront, hname⟩)
    · exact ⟨[], rest, rfl, rfl, rfl, hname⟩
    · refine ⟨run ++ c :: front, rest', by simp, by simp; omega, ?_, hname⟩
      cases front with
      | nil => simpa using hc
      | cons d front => rwa [List.getLast?_append_cons, List.getLast?_cons_cons]

theorem not_optionsWordAt_of_forall_word {text w : List Char} {i : Nat}
    (h : ∀ c ∈ text, isWord c = true) : ¬ OptionsWordAt text i w := by
  rintro ⟨front, rest, rfl, -, -, -⟩
  have := h ' ' (by simp)
  rw [isWord_space] at this
  cases this

theorem lists_optionsWords (text : List Char) :
    Lists (· < ·) (OptionsWordAt text) (optionsWords text) := by
  induction hn : text.length using Nat.strong_induction_on generalizing text with
  | h n ih =>
    have hr : ∀ c ∈ text.takeWhile isWord, isWord c = true := fun c hc => List.mem_takeWhile_imp hc
    have hcut := List.takeWhile_append_dropWhile (p := isWord) (l := text)
    have hend := List.head?_dropWhile_not isWord text
    generalize text.takeWhile isWord = run at hr hcut
    cases htail : text.dropWhile isWord with
    | nil =>
      rw [htail, List.append_nil] at hcut
      subst hcut
      have hwords : optionsWords run = [] := by
        have ht : ([] : List Char).head?.any isWord = false := rfl
        rw [← List.append_nil run, optionsWords_run hr ht (by simp), optionsWords_nil]
      rw [hwords]
      exact .nil fun i w => not_optionsWordAt_of_forall_word hr
    | cons c rest =>
      rw [htail] at hcut hend
      have hc : isWord c = false := hend
      subst hcut
      have hbehind := (ih rest.length (by simp at hn; omega) rest rfl).shift (run.length + 1)
      by_cases hname : c = ' ' ∧ IsOptionsName run
      · obtain ⟨rfl, hname⟩ := hname
        rw [optionsWords_name hname]
        refine ((Lists.singleton 0 run).append hbehind ?_).congr fun i w => ?_
        · rintro _ _ _ _ ⟨rfl, -⟩ ⟨j, rfl, -⟩
          omega
        · rw [optionsWordAt_run_iff hr hc]
          simp [hname]
      · have hno : ∀ rest', c :: rest = ' ' :: rest' → ¬ IsOptionsName run :=
          fun _ he h => hname ⟨(List.cons.inj he).1, h⟩
        rw [optionsWords_run hr (by simpa using hc) hno, optionsWords_gap hc]
        refine hbehind.congr fun i w => ?_
        rw [optionsWordAt_run_iff hr hc]
        simp [hname]

end SchemaWrappers.Vocabulary
