import SchemaWrappers.Proofs.Text.Kinds
import SchemaWrappers.Proofs.Text.Pieces
import SchemaWrappers.Template.Token

namespace SchemaWrappers.Template
open Text

/-- The characters of a name: an identifier that does not start like a number. -/
structure IsName (w : List Char) : Prop where
  parts : w.all isNamePart = true
  identifier : isIdentifier w = true
  digit : w.head?.any isDecimalDigit = false

instance (w : List Char) : Decidable (IsName w) :=
  decidable_of_iff (w.all isNamePart = true ∧ isIdentifier w = true ∧
    w.head?.any isDecimalDigit = false) ⟨fun ⟨h, h', h''⟩ => ⟨h, h', h''⟩, fun ⟨h, h', h''⟩ => ⟨h, h', h''⟩⟩

namespace IsName
variable {w : List Char}

theorem ne_nil (h : IsName w) : w ≠ [] := by
  rintro rfl
  cases h.identifier

theorem isNamePart_of_mem (h : IsName w) {c : Char} (hc : c ∈ w) : isNamePart c = true :=
  List.all_eq_true.mp h.parts c hc

end IsName

/-- What stands between the ends of an output or a tag, with its tokens: names and full stops, and
blanks among them. -/
inductive Spelled : List Char → List Token → Prop where
  | nil : Spelled [] []
  | blank {c : Char} {cs : List Char} {ts : List Token} (hc : isBlank c = true) (h : Spelled cs ts) :
    Spelled (c :: cs) ts
  | name {w cs : List Char} {ts : List Token} (hw : IsName w)
    (hcs : cs.head?.any isNamePart = false) (h : Spelled cs ts) :
    Spelled (w ++ cs) (.name (String.ofList w) :: ts)
  | stop {cs : List Char} {ts : List Token} (h : Spelled cs ts) :
    Spelled ('.' :: cs) (.mark "." :: ts)

def dataTokens (cs : List Char) : List Token := if cs.isEmpty then [] else [.data (String.ofList cs)]

/-- A template with its tokens. Tags and comments stand at the start of a line and take its end with
them. -/
inductive Written : List Char → List Token → Prop where
  | plain {cs : List Char} (h : '«' ∉ cs) : Written cs (dataTokens cs)
  | output {front inner rest : List Char} {ts us : List Token} (hf : '«' ∉ front)
    (hi : Spelled inner ts) (h : Written rest us) :
    Written (front ++ '«' :: (inner ++ '»' :: rest))
      (dataTokens front ++ .outputStart :: (ts ++ .outputEnd :: us))
  | tag {front inner rest : List Char} {ts us : List Token} (hf : '«' ∉ front)
    (hline : front = [] ∨ front.getLast? = some '\n') (hi : Spelled inner ts)
    (hraw : ∀ more, Lexer.rawStart? (inner ++ more) = none) (h : Written rest us) :
    Written (front ++ '«' :: '%' :: (inner ++ '%' :: '»' :: '\n' :: rest))
      (dataTokens front ++ .tagStart :: (ts ++ .tagEnd :: us))
  | comment {front body rest : List Char} {us : List Token} (hf : '«' ∉ front)
    (hline : front = [] ∨ front.getLast? = some '\n') (hb : ∀ c ∈ body, c ∉ ['#', '-', '+'])
    (h : Written rest us) :
    Written (front ++ '«' :: '#' :: (body ++ '#' :: '»' :: '\n' :: rest)) (dataTokens front ++ us)

namespace Lexer

theorem map_dataToken (text : List Char) (line : Nat) :
    (dataToken text line).map (·.token) = dataTokens text := by
  rw [dataToken, dataTokens]
  split
  · rfl
  · rfl

theorem digitRun_of_not_digit {p : Char → Bool} {c : Char} {cs : List Char} (hc : p c = false)
    (h : c ≠ '_') : digitRun p (c :: cs) = ([], c :: cs) := by
  rw [digitRun.eq_def]
  split
  · rename_i heq
    exact absurd (List.cons.inj heq).1 h
  · rename_i heq
    obtain ⟨rfl, rfl⟩ := List.cons.inj heq
    rw [if_neg (by simp [hc])]
  · rename_i heq
    cases heq

theorem decimal?_of_not_digit {c : Char} {cs : List Char} (hc : isDecimalDigit c = false) :
    decimal? (c :: cs) = none := by
  have hd : digits (c :: cs) = ([], c :: cs) := by
    rw [digits]
    split
    · rfl
    · rename_i h
      exact digitRun_of_not_digit hc (by simpa using h)
  rw [decimal?, hd]
  rfl

theorem whole?_of_not_digit {c : Char} {cs : List Char} (hc : isDecimalDigit c = false) :
    whole? (c :: cs) = none := by
  have hdigit := not_isDigit_of_not_decimal hc
  rw [whole?.eq_def]
  split
  · rename_i heq
    rw [(List.cons.inj heq).1] at hdigit
    exact absurd hdigit (by decide)
  · rename_i heq
    obtain ⟨rfl, rfl⟩ := List.cons.inj heq
    rw [if_neg (by simp [hdigit])]
  · rfl

theorem token?_name {w cs : List Char} (before : Char) (hw : IsName w)
    (hcs : cs.head?.any isNamePart = false) :
    token? before (w ++ cs) = some (.name (String.ofList w), cs) := by
  obtain ⟨c, w', rfl⟩ := List.exists_cons_of_ne_nil hw.ne_nil
  have hc : isDecimalDigit c = false := by simpa using hw.digit
  have htake : ((c :: w') ++ cs).takeWhile isNamePart = c :: w' :=
    takeWhile_run (fun _ => hw.isNamePart_of_mem) hcs
  have hname : name? ((c :: w') ++ cs) = some (.name (String.ofList (c :: w')), cs) := by
    rw [name?, htake]
    simp [hw.identifier]
  rw [token?, List.cons_append, decimal?_of_not_digit hc, whole?_of_not_digit hc, ← List.cons_append,
    hname]
  simp

theorem token?_stop (before : Char) (cs : List Char) :
    token? before ('.' :: cs) = some (.mark ".", cs) := by
  have hdigit : isDecimalDigit '.' = false := by decide
  have hname : name? ('.' :: cs) = none := by
    rw [name?, List.takeWhile_cons_of_neg (by decide +kernel)]
  rw [token?, decimal?_of_not_digit hdigit, whole?_of_not_digit hdigit, hname, ite_self]
  rfl

/-- No end starts with a character that is no sign, nor the first one of the end itself. -/
theorem close?_of_ne {mark : Option Char} {c : Char} {cs : List Char} (hminus : c ≠ '-')
    (hplus : c ≠ '+') (hmark : c ≠ mark.getD '»') : close? mark (c :: cs) = none := by
  have hclosing : closing? mark (c :: cs) = none := by
    rw [closing?.eq_def]
    split
    · rename_i heq
      exact absurd (List.cons.inj heq).1 hmark
    · rename_i heq
      obtain ⟨rfl, -⟩ := List.cons.inj heq
      exact if_neg (by simpa using hmark)
    · rfl
  rw [close?.eq_def]
  split
  · rename_i heq
    exact absurd (List.cons.inj heq).1 hminus
  · rename_i heq
    exact absurd (List.cons.inj heq).1 hplus
  · rw [hclosing]
    rfl

section
variable {isTag : Bool} {size fuel line : Nat} {before c : Char} {cs rest : List Char}

theorem inside_close {lineStart : Bool}
    (h : close? (if isTag then some '%' else none) (c :: cs) = some (rest, lineStart)) :
    inside isTag size (fuel + 1) [] before line (c :: cs) =
      ([⟨if isTag then .tagEnd else .outputEnd, line⟩], rest, lineStart) := by
  rw [inside]
  simp only [List.isEmpty_nil, ↓reduceIte, h]

theorem inside_blank (hopen : close? (if isTag then some '%' else none) (c :: cs) = none)
    (hc : isBlank c = true) : inside isTag size (fuel + 1) [] before line (c :: cs) =
      inside isTag size fuel [] c (lineAfter line (c :: cs) cs) cs := by
  rw [inside]
  simp only [List.isEmpty_nil, ↓reduceIte, hopen, hc]

theorem inside_token (size fuel line : Nat) {t : Token}
    (hopen : close? (if isTag then some '%' else none) (c :: cs) = none)
    (hc : isBlank c = false) (ht : token? before (c :: cs) = some (t, rest)) (hbad : ∀ f, t ≠ .bad f)
    (hbalance : balance [] t = .ok []) :
    ∃ last line', inside isTag size (fuel + 1) [] before line (c :: cs) =
      (⟨t, line⟩ :: (inside isTag size fuel [] last line' rest).1,
        (inside isTag size fuel [] last line' rest).2) := by
  rw [inside]
  simp only [List.isEmpty_nil, ↓reduceIte, hopen, hc, Bool.false_eq_true]
  rw [ht]
  cases t with
  | bad f => exact absurd rfl (hbad f)
  | _ =>
    simp only [hbalance]
    exact ⟨_, _, rfl⟩

end

theorem not_mem_of_kind {p : Char → Bool} {c : Char} {ds : List Char} (h : p c = true)
    (hp : ds.any p = false) : c ∉ ds := fun hc => List.any_eq_false.mp hp c hc h

/-- No end starts with a character of a kind that none of its signs and marks is of. -/
theorem close?_of_kind {p : Char → Bool} {c : Char} (isTag : Bool) (cs : List Char) (h : p c = true)
    (hp : ['-', '+', '»', '%'].any p = false) :
    close? (if isTag then some '%' else none) (c :: cs) = none := by
  have hnot := not_mem_of_kind h hp
  simp only [List.mem_cons, List.not_mem_nil, or_false, not_or] at hnot
  refine close?_of_ne hnot.1 hnot.2.1 ?_
  cases isTag
  · exact hnot.2.2.1
  · exact hnot.2.2.2

theorem inside_spelled {inner : List Char} {ts : List Token} (h : Spelled inner ts) (isTag : Bool)
    (size : Nat) {c : Char} {cs rest : List Char} {lineStart : Bool} (hc : isNamePart c = false)
    (hclose : close? (if isTag then some '%' else none) (c :: cs) = some (rest, lineStart))
    {fuel : Nat} (hfuel : inner.length < fuel) (before : Char) (line : Nat) :
    ∃ ls : List Lexeme, ls.map (·.token) = ts ++ [if isTag then .tagEnd else .outputEnd] ∧
      inside isTag size fuel [] before line (inner ++ c :: cs) = (ls, rest, lineStart) := by
  induction h generalizing fuel before line with
  | nil =>
    obtain ⟨fuel, rfl⟩ := Nat.exists_eq_succ_of_ne_zero (Nat.ne_zero_of_lt hfuel)
    exact ⟨_, rfl, inside_close hclose⟩
  | blank hb _ ih =>
    obtain ⟨fuel, rfl⟩ := Nat.exists_eq_succ_of_ne_zero (Nat.ne_zero_of_lt hfuel)
    obtain ⟨ls, hls, hin⟩ := ih (Nat.lt_of_succ_lt_succ hfuel) _ _
    exact ⟨ls, hls, (inside_blank (close?_of_kind isTag _ hb (by decide)) hb).trans hin⟩
  | @name w more ts hw hmore _ ih =>
    obtain ⟨fuel, rfl⟩ := Nat.exists_eq_succ_of_ne_zero (Nat.ne_zero_of_lt hfuel)
    obtain ⟨d, w, rfl⟩ := List.exists_cons_of_ne_nil hw.ne_nil
    have hd : isNamePart d = true := hw.isNamePart_of_mem (List.mem_cons_self ..)
    have hnext : (more ++ c :: cs).head?.any isNamePart = false := by
      cases more with
      | nil => simpa using hc
      | cons => exact hmore
    obtain ⟨last, line', hin⟩ := inside_token size fuel line
      (close?_of_kind isTag _ hd (by decide +kernel)) (not_blank_of_isNamePart hd)
      (token?_name before hw hnext) (by simp) rfl
    have hless : more.length < fuel := by
      rw [List.length_append, List.length_cons] at hfuel
      omega
    obtain ⟨ls, hls, hrest⟩ := ih hless last line'
    rw [hrest] at hin
    refine ⟨⟨.name _, line⟩ :: ls, congrArg (List.cons _) hls, ?_⟩
    rwa [List.append_assoc]
  | @stop more ts _ ih =>
    obtain ⟨fuel, rfl⟩ := Nat.exists_eq_succ_of_ne_zero (Nat.ne_zero_of_lt hfuel)
    obtain ⟨last, line', hin⟩ := inside_token size fuel line
      (close?_of_kind (p := (· == '.')) isTag _ rfl (by decide)) (by decide)
      (token?_stop before (more ++ c :: cs)) (by simp) (by decide)
    obtain ⟨ls, hls, hrest⟩ := ih (Nat.lt_of_succ_lt_succ hfuel) last line'
    rw [hrest] at hin
    exact ⟨⟨.mark ".", line⟩ :: ls, congrArg (List.cons _) hls, hin⟩

theorem commentEnd?_append {body : List Char} (hb : ∀ c ∈ body, c ∉ ['#', '-', '+'])
    (rest : List Char) : commentEnd? (body ++ '#' :: '»' :: '\n' :: rest) = some (rest, true) := by
  induction body with
  | nil => rfl
  | cons c body ih =>
    have hc := hb c (List.mem_cons_self ..)
    simp only [List.mem_cons, List.not_mem_nil, or_false, not_or] at hc
    have hopen : ∀ cs, close? (some '#') (c :: cs) = none := fun cs => close?_of_ne hc.2.1 hc.2.2 hc.1
    rw [List.cons_append, commentEnd?, hopen, Option.none_or]
    exact ih fun d hd => hb d (List.mem_cons_of_mem _ hd)

/-- Plain text keeps its end before what stands at the start of a line. -/
theorem strip_of_lines {front : List Char} (h : front = [] ∨ front.getLast? = some '\n')
    (output lineStart : Bool) : strip none output lineStart front = front := by
  rcases h with rfl | h
  · simp [strip]
  · obtain ⟨front, rfl⟩ := List.getLast?_eq_some_iff.mp h
    simp [strip]

theorem strip_output (lineStart : Bool) (front : List Char) : strip none true lineStart front = front := by
  simp [strip]

section
variable {size fuel line : Nat} {lineStart : Bool} {front rest : List Char}

private theorem not_open (hf : '«' ∉ front) : ∀ c ∈ front, (c != '«') = true := by
  intro c hc
  rw [bne_iff_ne]
  rintro rfl
  exact hf hc

theorem takeWhile_front (hf : '«' ∉ front) : (front ++ '«' :: rest).takeWhile (· != '«') = front :=
  takeWhile_run (not_open hf) rfl

theorem dropWhile_front (hf : '«' ∉ front) :
    (front ++ '«' :: rest).dropWhile (· != '«') = '«' :: rest := by
  rw [List.dropWhile_append_of_pos (not_open hf)]
  rfl

theorem outside_plain (hf : '«' ∉ front) :
    outside size (fuel + 1) lineStart line front = dataToken front line := by
  rw [outside]
  dsimp only
  rw [List.takeWhile_eq_self_iff.mpr (not_open hf), List.dropWhile_eq_nil_iff.mpr (not_open hf)]

/-- What is spelled out up to an end has no sign before it, and starts neither a comment nor a tag
unless its end does. -/
theorem head_of_spelled {inner : List Char} {ts : List Token} (h : Spelled inner ts) (c : Char)
    (rest : List Char) :
    ∃ d more, inner ++ c :: rest = d :: more ∧ (d = c ∨ d ∉ ['#', '%', '-', '+']) := by
  cases h with
  | nil => exact ⟨c, rest, rfl, .inl rfl⟩
  | blank hd _ => exact ⟨_, _, rfl, .inr (not_mem_of_kind hd (by decide))⟩
  | name hw _ _ =>
    obtain ⟨d, w, rfl⟩ := List.exists_cons_of_ne_nil hw.ne_nil
    have hd := hw.isNamePart_of_mem (List.mem_cons_self ..)
    exact ⟨_, _, rfl, .inr (not_mem_of_kind hd (by decide +kernel))⟩
  | stop _ => exact ⟨'.', _, rfl, .inr (by decide)⟩

theorem sign_of_ne {d : Char} (hminus : d ≠ '-') (hplus : d ≠ '+') (more : List Char) :
    sign (d :: more) = (none, d :: more) := by
  rw [sign.eq_def]
  split
  · rename_i heq
    exact absurd (List.cons.inj heq).1 hminus
  · rename_i heq
    exact absurd (List.cons.inj heq).1 hplus
  · rfl

theorem sign_of_spelled {inner : List Char} {ts : List Token} (h : Spelled inner ts) {c : Char}
    (hc : c ∉ ['-', '+']) (rest : List Char) :
    sign (inner ++ c :: rest) = (none, inner ++ c :: rest) := by
  obtain ⟨d, more, hmore, hd⟩ := head_of_spelled h c rest
  have hnot : d ∉ ['-', '+'] := by
    rcases hd with rfl | hd
    · exact hc
    · exact fun h => hd (List.mem_append_right ['#', '%'] h)
  rw [hmore]
  exact sign_of_ne (fun h => hnot (by simp [h])) (fun h => hnot (by simp [h])) more

/-- An output is read with the plain text before it, and what follows from behind it on. -/
theorem outside_output {inner : List Char} {ts : List Token} (hf : '«' ∉ front)
    (hi : Spelled inner ts) : ∃ ls line', ls.map (·.token) =
        dataTokens front ++ .outputStart :: (ts ++ [.outputEnd]) ∧
      outside size (fuel + 1) lineStart line (front ++ '«' :: (inner ++ '»' :: rest)) =
        ls ++ outside size fuel false line' rest := by
  have hclose : close? none ('»' :: rest) = some (rest, false) := rfl
  have hfuel : inner.length < (inner ++ '»' :: rest).length + 1 := by
    rw [List.length_append]
    omega
  obtain ⟨ls, hls, hin⟩ := inside_spelled hi false size (by decide +kernel) hclose hfuel ' '
    (line + front.count '\n')
  have hsign := sign_of_spelled hi (c := '»') (by decide) rest
  refine ⟨dataToken front line ++ ⟨.outputStart, line + front.count '\n'⟩ :: ls,
    lineAfter line (front ++ '«' :: (inner ++ '»' :: rest)) rest, ?_, ?_⟩
  · rw [List.map_append, map_dataToken, List.map_cons, hls]
    rfl
  · obtain ⟨d, more, hmore, hd⟩ := head_of_spelled hi '»' rest
    have hplain : d ∉ ['#', '%'] := by
      rcases hd with rfl | hd
      · decide
      · exact fun h => hd (List.mem_append_left ['-', '+'] h)
    rw [outside, takeWhile_front hf, dropWhile_front hf]
    dsimp only
    split
    · rename_i heq
      cases heq
    · rename_i heq
      rw [hmore] at heq
      exact absurd (List.cons.inj (List.cons.inj heq).2).1 fun h => hplain (by simp [h])
    · rename_i heq
      rw [hmore] at heq
      exact absurd (List.cons.inj (List.cons.inj heq).2).1 fun h => hplain (by simp [h])
    · rename_i heq
      obtain ⟨-, rfl⟩ := List.cons.inj heq
      rw [hsign]
      dsimp only
      rw [hin, Bool.not_false, strip_output, List.append_assoc]

theorem outside_tag {inner : List Char} {ts : List Token} (hf : '«' ∉ front)
    (hline : front = [] ∨ front.getLast? = some '\n') (hi : Spelled inner ts)
    (hraw : ∀ more, rawStart? (inner ++ more) = none) : ∃ ls line', ls.map (·.token) =
        dataTokens front ++ .tagStart :: (ts ++ [.tagEnd]) ∧
      outside size (fuel + 1) lineStart line
          (front ++ '«' :: '%' :: (inner ++ '%' :: '»' :: '\n' :: rest)) =
        ls ++ outside size fuel true line' rest := by
  have hclose : close? (some '%') ('%' :: '»' :: '\n' :: rest) = some (rest, true) := rfl
  have hfuel : inner.length < (inner ++ '%' :: '»' :: '\n' :: rest).length + 1 := by
    rw [List.length_append]
    omega
  obtain ⟨ls, hls, hin⟩ := inside_spelled hi true size (by decide +kernel) hclose hfuel ' '
    (line + front.count '\n')
  have hsign := sign_of_spelled hi (c := '%') (by decide) ('»' :: '\n' :: rest)
  refine ⟨dataToken front line ++ ⟨.tagStart, line + front.count '\n'⟩ :: ls,
    lineAfter line (front ++ '«' :: '%' :: (inner ++ '%' :: '»' :: '\n' :: rest)) rest, ?_, ?_⟩
  · rw [List.map_append, map_dataToken, List.map_cons, hls]
    rfl
  · rw [outside]
    simp only [takeWhile_front hf, dropWhile_front hf, hraw, hsign, hin, strip_of_lines hline]

/-- A comment leaves nothing but the plain text before it. -/
theorem outside_comment {body : List Char} (hf : '«' ∉ front)
    (hline : front = [] ∨ front.getLast? = some '\n') (hb : ∀ c ∈ body, c ∉ ['#', '-', '+']) :
    ∃ line', outside size (fuel + 1) lineStart line
          (front ++ '«' :: '#' :: (body ++ '#' :: '»' :: '\n' :: rest)) =
        dataToken front line ++ outside size fuel true line' rest := by
  have hsign : sign (body ++ '#' :: '»' :: '\n' :: rest) = (none, body ++ '#' :: '»' :: '\n' :: rest) := by
    cases body with
    | nil => rfl
    | cons d body =>
      have hd := hb d (List.mem_cons_self ..)
      exact sign_of_ne (fun h => hd (by simp [h])) (fun h => hd (by simp [h])) _
  refine ⟨lineAfter line (front ++ '«' :: '#' :: (body ++ '#' :: '»' :: '\n' :: rest)) rest, ?_⟩
  rw [outside]
  simp only [takeWhile_front hf, dropWhile_front hf, hsign, commentEnd?_append hb, strip_of_lines hline]
  simp

end

theorem outside_written {cs : List Char} {ts : List Token} (h : Written cs ts) (size : Nat)
    {fuel : Nat} (hfuel : cs.length < fuel) (lineStart : Bool) (line : Nat) :
    (outside size fuel lineStart line cs).map (·.token) = ts := by
  induction h generalizing fuel lineStart line with
  | plain hf =>
    obtain ⟨fuel, rfl⟩ := Nat.exists_eq_succ_of_ne_zero (Nat.ne_zero_of_lt hfuel)
    rw [outside_plain hf, map_dataToken]
  | output hf hi _ ih =>
    obtain ⟨fuel, rfl⟩ := Nat.exists_eq_succ_of_ne_zero (Nat.ne_zero_of_lt hfuel)
    obtain ⟨ls, line', hls, hout⟩ := outside_output hf hi
    rw [hout, List.map_append, hls, ih (by simp at hfuel; omega)]
    simp
  | tag hf hline hi hraw _ ih =>
    obtain ⟨fuel, rfl⟩ := Nat.exists_eq_succ_of_ne_zero (Nat.ne_zero_of_lt hfuel)
    obtain ⟨ls, line', hls, hout⟩ := outside_tag hf hline hi hraw
    rw [hout, List.map_append, hls, ih (by simp at hfuel; omega)]
    simp
  | comment hf hline hb _ ih =>
    obtain ⟨fuel, rfl⟩ := Nat.exists_eq_succ_of_ne_zero (Nat.ne_zero_of_lt hfuel)
    obtain ⟨line', hout⟩ := outside_comment hf hline hb
    rw [hout, List.map_append, map_dataToken, ih (by simp at hfuel; omega)]

end Lexer

theorem tokens_written {cs : List Char} {ts : List Token} (h : Written cs ts) :
    (tokens cs).map (·.token) = ts :=
  Lexer.outside_written h cs.length (Nat.lt_succ_self _) true 1

end SchemaWrappers.Template
