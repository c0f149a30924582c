import SchemaWrappers.Proofs.Template.Slots

namespace SchemaWrappers.Template

namespace Nesting

/-- The most levels that it takes to go through tokens. -/
def peak (n : Nesting) : List Token → Nat
  | [] => 0
  | t :: ts => max (n.behind t).weight ((n.behind t).peak ts)

/-- Tokens that do not nest too deep are read to their end. -/
theorem cut_eq_self {levels : Nat} {n : Nesting} {ls : List Lexeme}
    (h : n.peak (ls.map (·.token)) ≤ levels) : cut levels n ls = ls := by
  induction ls generalizing n with
  | nil => rfl
  | cons l ls ih =>
    obtain ⟨hfirst, hrest⟩ := Nat.max_le.mp h
    rw [cut, if_neg (Nat.not_lt.mpr hfirst), ih hrest]

end Nesting

/-- A template of one loop over what a name stands for: what stands before the loop, and what it puts
out for each item. -/
structure Sheet where
  head : Row
  item : String
  source : String
  body : Row

namespace Sheet

def forTag (t : Sheet) : List Char :=
  ' ' :: ("for".toList ++ ' ' :: (t.item.toList ++ ' ' :: ("in".toList ++ ' ' :: (t.source.toList ++ [' ']))))

def endTag : List Char := ' ' :: ("endfor".toList ++ [' '])

def written (t : Sheet) : List Char :=
  t.head.written ++ '«' :: '%' :: (t.forTag ++ '%' :: '»' :: '\n' ::
    (t.body.written ++ '«' :: '%' :: (endTag ++ ['%', '»', '\n'])))

def tokens (t : Sheet) : List Token :=
  t.head.tokens ++ .tagStart :: .name "for" :: .name t.item :: .name "in" :: .name t.source :: .tagEnd ::
    (t.body.tokens ++ [.tagStart, .name "endfor", .tagEnd])

/-- What the loop encloses. -/
def inside (t : Sheet) : List Part := Reader.joinOutputs t.body.items []

def loop (t : Sheet) : Part := .loop (.name t.item) (.name t.source) none false t.inside []

def parts (t : Sheet) : List Part := Reader.joinOutputs t.head.items [t.loop]

/-- A sheet that is read as such. -/
structure Fit (t : Sheet) : Prop where
  head : t.head.Fit
  headLine : t.head.EndsLine
  body : t.body.Fit
  bodyLine : t.body.EndsLine
  item : IsName t.item.toList
  itemFree : (Reader.constants.lookup t.item).isNone = true
  itemEnds : t.item ≠ "in"
  source : IsName t.source.toList
  sourceFree : (Reader.constants.lookup t.source).isNone = true
  sourceEnds : t.source ∉ ["not", "recursive"]
  shallow : Nesting.peak {} t.tokens ≤ leastLevels

end Sheet

theorem spelled_word {w : String} {cs : List Char} {ts : List Token} (hw : IsName w.toList)
    (h : Spelled cs ts) : Spelled (w.toList ++ ' ' :: cs) (.name w :: ts) := by
  have hspace : (' ' :: cs).head?.any Text.isNamePart = false := by
    rw [List.head?_cons, Option.any_some]
    decide +kernel
  have hblank : Spelled (' ' :: cs) ts := .blank (by decide) h
  have := Spelled.name hw hspace hblank
  rwa [String.ofList_toList] at this

namespace Sheet
variable {t : Sheet}

theorem Fit.spelled (h : t.Fit) :
    Spelled t.forTag [.name "for", .name t.item, .name "in", .name t.source] :=
  .blank (by decide) (spelled_word (by decide +kernel) (spelled_word h.item
    (spelled_word (by decide +kernel) (spelled_word h.source .nil))))

theorem Fit.written (h : t.Fit) : Written t.written t.tokens := by
  have hend : Spelled endTag [.name "endfor"] :=
    .blank (by decide) (spelled_word (by decide +kernel) .nil)
  have hlast : Written [] [] := .plain (by simp)
  have hbody := h.body.written_tag h.bodyLine hend (fun _ => rfl) hlast
  exact h.head.written_tag h.headLine h.spelled (fun _ => rfl) hbody

end Sheet

theorem length_dataItems (cs : List Char) : (dataItems cs).length = (dataTokens cs).length := by
  rw [dataItems, dataTokens]
  split
  · rfl
  · rfl

theorem Row.length_items (r : Row) : r.items.length ≤ r.tokens.length := by
  have hslots : (r.slots.flatMap Slot.items).length ≤ (r.slots.flatMap Slot.tokens).length := by
    induction r.slots with
    | nil => exact Nat.le_refl _
    | cons s row ih =>
      simp only [List.flatMap_cons, List.length_append, Slot.items, Slot.tokens, List.length_cons,
        List.length_nil, length_dataItems]
      omega
  rw [items, tokens, List.length_append, List.length_append, length_dataItems]
  exact Nat.add_le_add_right hslots _

open Reader in
theorem readAll_sheet {t : Sheet} (ht : t.Fit) {cs : List Char} (h : Written cs t.tokens)
    {levels : Nat} (hlevels : leastLevels ≤ levels) : Part.readAll levels cs = .ok t.parts := by
  have htokens := tokens_written h
  have hcut : Nesting.cut levels {} (tokens cs) = tokens cs :=
    Nesting.cut_eq_self (htokens ▸ ht.shallow.trans hlevels)
  have hfuel : ∃ fuel, 16 * (tokens cs).length + 64 =
      fuel + t.body.items.length + 4 + 14 + t.head.items.length := by
    have hlength : (tokens cs).length = t.tokens.length := by rw [← htokens, List.length_map]
    have hhead := t.head.length_items
    have hbody := t.body.length_items
    simp only [Sheet.tokens, List.length_append, List.length_cons, List.length_nil] at hlength
    exact ⟨16 * (tokens cs).length + 46 - t.body.items.length - t.head.items.length, by omega⟩
  obtain ⟨fuel, hfuel⟩ := hfuel
  rw [Part.readAll, hcut, hfuel]
  generalize tokens cs = ts at htokens
  obtain ⟨hs, ts, rfl, hhs, hts⟩ := List.map_eq_append_iff.mp htokens
  obtain ⟨l, ts, rfl, hl, hts⟩ := List.map_eq_cons_iff.mp hts
  obtain ⟨k, ts, rfl, hk, hts⟩ := List.map_eq_cons_iff.mp hts
  obtain ⟨k₁, ts, rfl, hk₁, hts⟩ := List.map_eq_cons_iff.mp hts
  obtain ⟨k₂, ts, rfl, hk₂, hts⟩ := List.map_eq_cons_iff.mp hts
  obtain ⟨k₃, ts, rfl, hk₃, hts⟩ := List.map_eq_cons_iff.mp hts
  obtain ⟨k₄, ts, rfl, hk₄, hts⟩ := List.map_eq_cons_iff.mp hts
  obtain ⟨bs, ts, rfl, hbs, hts⟩ := List.map_eq_append_iff.mp hts
  obtain ⟨l', ts, rfl, hl', hts⟩ := List.map_eq_cons_iff.mp hts
  obtain ⟨k', ts, rfl, hk', hts⟩ := List.map_eq_cons_iff.mp hts
  obtain ⟨k₅, ts, rfl, hk₅, hts⟩ := List.map_eq_cons_iff.mp hts
  obtain rfl := List.map_eq_nil_iff.mp hts
  have hbody : (parts (some ["endfor", "else"]) [] (fuel + t.body.items.length + 2 + 12)).run
      ⟨bs ++ [l', k', k₅], ["for"], [["endfor", "else"]]⟩ =
      .ok ((joinOutputs t.body.items [], "endfor"), ⟨[k₅], ["for"], [["endfor", "else"]]⟩) := by
    rw [Nat.add_assoc, Nat.add_right_comm, run_parts_row ht.body hbs]
    exact run_parts_stop hl' hk' (by decide)
  have hafter : (parts none [] (fuel + t.body.items.length + 2 + 15)).run ⟨[], [], []⟩ =
      .ok (([], ""), ⟨[], [], []⟩) := run_parts_nil
  have hsource : t.source ≠ "not" ∧ t.source ≠ "recursive" := by simpa using ht.sourceEnds
  have hloop := run_parts_for t.head.items hl hk hk₁ hk₂ hk₃ hk₄ hk₅ rfl
    (Option.isNone_iff_eq_none.mp ht.itemFree) ht.itemEnds (Option.isNone_iff_eq_none.mp ht.sourceFree)
    hsource.1 hsource.2 hbody hafter
  rw [run_parts_row ht.head hhs, List.nil_append, hloop]
  rfl

end SchemaWrappers.Template
