import Mathlib.Data.List.Basic
import SchemaWrappers.Text.Utf8

/-! What is encoded is read back, also where the bytes are cut: the characters that are not whole are left
out, and all others stay as they are. -/
namespace SchemaWrappers.Utf8

section
variable {count low high bits good n k : Nat} {b : UInt8} {bs rest : List UInt8} {c : Char}

theorem continuation_cons (hlow : low ≤ b.toNat) (hhigh : b.toNat ≤ high) :
    continuation (count + 1) low high bits good (b :: bs) =
      continuation count 0x80 0xbf (bits * 0x40 + (b.toNat - 0x80)) (good + 1) bs := by
  rw [continuation]
  simp [hlow, hhigh]

/-- What is read of some bytes is read of them whatever follows. -/
theorem continuation_append (h : continuation count low high bits good bs = .ok (n, rest))
    (more : List UInt8) :
    continuation count low high bits good (bs ++ more) = .ok (n, rest ++ more) := by
  induction count generalizing low high bits good bs with
  | zero =>
    simp only [continuation, Except.ok.injEq, Prod.mk.injEq] at h ⊢
    exact ⟨h.1, by rw [h.2]⟩
  | succ count ih =>
    cases bs with
    | nil => cases h
    | cons b bs =>
      rw [List.cons_append, continuation.eq_def]
      rw [continuation.eq_def] at h
      dsimp only at h ⊢
      split
      · rename_i hb
        rw [if_pos hb] at h
        exact ih h
      · rename_i hb
        rw [if_neg hb] at h
        cases h

/-- Of bytes that are all needed, a part is not enough. -/
theorem continuation_take (h : continuation count low high bits good bs = .ok (n, []))
    (hk : k < bs.length) :
    continuation count low high bits good (bs.take k) = .error (.truncated, good + k) := by
  induction count generalizing low high bits good bs k with
  | zero =>
    cases h
    cases hk
  | succ count ih =>
    cases bs with
    | nil => cases hk
    | cons b bs =>
      cases k with
      | zero => rfl
      | succ k =>
        rw [continuation.eq_def] at h
        rw [List.take_succ_cons, continuation.eq_def]
        dsimp only at h ⊢
        split
        · rename_i hb
          rw [if_pos hb] at h
          rw [ih h (Nat.lt_of_succ_lt_succ hk), Nat.add_right_comm, Nat.add_assoc]
        · rename_i hb
          rw [if_neg hb] at h
          cases h

theorem next_eq_ok (h : next b bs = .ok (c, rest)) : ∃ l n, lead b.toNat = some l ∧
    continuation l.count l.low l.high l.bits 1 bs = .ok (n, rest) ∧ Char.ofNat n = c := by
  rw [next] at h
  split at h
  · cases h
  · rename_i l hl
    split at h
    · rename_i n after hcont
      cases h
      exact ⟨l, n, hl, hcont, rfl⟩
    · cases h

theorem next_append (h : next b bs = .ok (c, rest)) (more : List UInt8) :
    next b (bs ++ more) = .ok (c, rest ++ more) := by
  obtain ⟨l, n, hl, hcont, rfl⟩ := next_eq_ok h
  rw [next, hl]
  dsimp only
  rw [continuation_append hcont more]

theorem next_take (h : next b bs = .ok (c, [])) (hk : k < bs.length) :
    next b (bs.take k) = .error (.truncated, k + 1) := by
  obtain ⟨l, n, hl, hcont, -⟩ := next_eq_ok h
  rw [next, hl]
  dsimp only
  rw [continuation_take hcont hk, Nat.add_comm]

/-- A byte that goes on with a character. -/
def Continues (b : UInt8) : Prop := 0x80 ≤ b.toNat ∧ b.toNat < 0xc0

/-- No character starts with a byte that goes on with one. -/
theorem next_of_continues (h : Continues b) (bs : List UInt8) : next b bs = .error (.badStart, 1) := by
  obtain ⟨hlow, hhigh⟩ := h
  have hlead : lead b.toNat = none := by
    rw [lead, if_neg (by omega), if_pos (by omega)]
  rw [next, hlead]

end

section
variable {b : UInt8} {bs : List UInt8}

theorem toNat_ofNat {n : Nat} (h : n < 256) : (UInt8.ofNat n).toNat = n := by
  rw [UInt8.toNat_ofNat', Nat.mod_eq_of_lt h]

/-- The bytes of a character: one that starts it, and those that go on with it. -/
structure Spells (c : Char) (b : UInt8) (bs : List UInt8) : Prop where
  next : next b bs = .ok (c, [])
  continues : ∀ x ∈ bs, Continues x

theorem Spells.of {c : Char} {l : Lead} (hl : lead b.toNat = some l)
    (hcont : continuation l.count l.low l.high l.bits 1 bs = .ok (c.toNat, []))
    (hbs : ∀ x ∈ bs, Continues x) : Spells c b bs where
  next := by
    rw [Utf8.next, hl]
    dsimp only
    rw [hcont]
    exact congrArg (fun c => Except.ok (c, [])) (Char.ofNat_toNat c)
  continues := hbs

theorem continues_ofNat (n : Nat) : Continues (UInt8.ofNat (n % 64 + 128)) := by
  rw [Continues, toNat_ofNat (by omega)]
  omega

theorem continuation_ofNat {count low high n : Nat} (hlow : low ≤ n % 64 + 128)
    (hhigh : n % 64 + 128 ≤ high) (bits good : Nat) (bs : List UInt8) :
    continuation (count + 1) low high bits good (UInt8.ofNat (n % 64 + 128) :: bs) =
      continuation count 0x80 0xbf (bits * 64 + n % 64) (good + 1) bs := by
  have hn : (UInt8.ofNat (n % 64 + 128)).toNat = n % 64 + 128 := toNat_ofNat (by omega)
  rw [continuation_cons (by rwa [hn]) (by rwa [hn]), hn, Nat.add_sub_cancel]

theorem utf8EncodeChar_eq {c : Char} {n : Nat} (hn : c.toNat = n) : String.utf8EncodeChar c =
    if n ≤ 0x7f then [.ofNat n]
    else if n ≤ 0x7ff then [.ofNat (n / 64 % 32 + 192), .ofNat (n % 64 + 128)]
    else if n ≤ 0xffff then
      [.ofNat (n / 4096 % 16 + 224), .ofNat (n / 64 % 64 + 128), .ofNat (n % 64 + 128)]
    else [.ofNat (n / 262144 % 8 + 240), .ofNat (n / 4096 % 64 + 128), .ofNat (n / 64 % 64 + 128),
      .ofNat (n % 64 + 128)] := by
  rw [← hn]
  rfl

/-- The bytes of a character start it and go on with it, and it is read back from them. -/
theorem spells_utf8EncodeChar (c : Char) :
    ∃ b bs, String.utf8EncodeChar c = b :: bs ∧ Spells c b bs := by
  have hvalid : c.toNat < 0xd800 ∨ 0xdfff < c.toNat ∧ c.toNat < 0x110000 := c.valid
  generalize hn : c.toNat = n at hvalid
  have hlast : ∀ x ∈ [UInt8.ofNat (n % 64 + 128)], Continues x :=
    List.forall_mem_singleton.mpr (continues_ofNat n)
  have hlastTwo := List.forall_mem_cons.mpr ⟨continues_ofNat (n / 64), hlast⟩
  have hlastThree := List.forall_mem_cons.mpr ⟨continues_ofNat (n / 4096), hlastTwo⟩
  rw [utf8EncodeChar_eq hn]
  split_ifs with hone htwo hthree
  · refine ⟨_, _, rfl, .of (l := ⟨0, 0x80, 0xbf, n⟩) ?_ ?_ (by simp)⟩
    · rw [toNat_ofNat (by omega), lead, if_pos (by omega)]
    · rw [continuation, hn]
  · refine ⟨_, _, rfl, .of (l := ⟨1, 0x80, 0xbf, n / 64 % 32⟩) ?_ ?_ hlast⟩
    · rw [toNat_ofNat (by omega), lead, if_neg (by omega), if_neg (by omega), if_pos (by omega),
        Nat.add_sub_cancel]
    · dsimp only
      rw [continuation_ofNat (by omega) (by omega), continuation, hn]
      congr 2
      omega
  · refine ⟨_, _, rfl, .of (l := ⟨2, if n / 4096 % 16 = 0 then 0xa0 else 0x80,
      if n / 4096 % 16 = 13 then 0x9f else 0xbf, n / 4096 % 16⟩) ?_ ?_ hlastTwo⟩
    · rw [toNat_ofNat (by omega), lead, if_neg (by omega), if_neg (by omega), if_neg (by omega),
        if_pos (by omega), Nat.add_sub_cancel]
      simp
    · dsimp only
      rw [continuation_ofNat (by split <;> omega) (by split <;> omega),
        continuation_ofNat (by omega) (by omega), continuation, hn]
      congr 2
      omega
  · refine ⟨_, _, rfl, .of (l := ⟨3, if n / 262144 % 8 = 0 then 0x90 else 0x80,
      if n / 262144 % 8 = 4 then 0x8f else 0xbf, n / 262144 % 8⟩) ?_ ?_ hlastThree⟩
    · rw [toNat_ofNat (by omega), lead, if_neg (by omega), if_neg (by omega), if_neg (by omega),
        if_neg (by omega), if_pos (by omega), Nat.add_sub_cancel]
      simp
    · dsimp only
      rw [continuation_ofNat (by split <;> omega) (by split <;> omega),
        continuation_ofNat (by omega) (by omega), continuation_ofNat (by omega) (by omega),
        continuation, hn]
      congr 2
      omega

end

theorem encode_cons (c : Char) (cs : List Char) :
    encode (c :: cs) = String.utf8EncodeChar c ++ encode cs := List.flatMap_cons

/-- A text that is encoded is read back, wherever its first byte lies. -/
theorem decodeFrom_encode (place : Nat) (cs : List Char) : decodeFrom place (encode cs) = .ok cs := by
  induction cs generalizing place with
  | nil =>
    rw [encode, List.flatMap_nil, decodeFrom]
  | cons c cs ih =>
    obtain ⟨b, bs, hc, hspells⟩ := spells_utf8EncodeChar c
    have hnext : next b (bs ++ encode cs) = .ok (c, encode cs) := next_append hspells.next _
    rw [encode_cons, hc, List.cons_append, decodeFrom]
    split
    · rename_i d after h
      rw [hnext] at h
      cases h
      rw [ih]
    · rename_i h
      rw [hnext] at h
      cases h

theorem decode_encode (cs : List Char) : decode (encode cs) = .ok cs := decodeFrom_encode 0 cs

section
variable {b : UInt8} {bs rest : List UInt8} {c : Char} {fault : Fault} {n : Nat}

theorem decodeLossy_nil : decodeLossy [] = [] := by rw [decodeLossy, decodeMarking]

theorem decodeLossy_of_ok (h : next b bs = .ok (c, rest)) :
    decodeLossy (b :: bs) = c :: decodeLossy rest := by
  rw [decodeLossy, decodeMarking]
  split
  · rename_i h'
    rw [h] at h'
    cases h'
    rfl
  · rename_i h'
    rw [h] at h'
    cases h'

theorem decodeLossy_of_error (h : next b bs = .error (fault, n)) :
    decodeLossy (b :: bs) = decodeLossy (bs.drop (n - 1)) := by
  rw [decodeLossy, decodeMarking]
  split
  · rename_i h'
    rw [h] at h'
    cases h'
  · rename_i h'
    rw [h] at h'
    cases h'
    rfl

/-- Bytes that go on with a character whose start is not there are left out. -/
theorem decodeLossy_append_of_continues (h : ∀ x ∈ bs, Continues x) (rest : List UInt8) :
    decodeLossy (bs ++ rest) = decodeLossy rest := by
  induction bs with
  | nil => rfl
  | cons b bs ih =>
    obtain ⟨hb, hbs⟩ := List.forall_mem_cons.mp h
    rw [List.cons_append, decodeLossy_of_error (next_of_continues hb _)]
    exact ih hbs

/-- A character that is not whole is left out. -/
theorem Spells.decodeLossy_take (h : Spells c b bs) {k : Nat} (hk : k < bs.length) :
    decodeLossy (b :: bs.take k) = [] := by
  rw [decodeLossy_of_error (next_take h.next hk), Nat.add_sub_cancel, List.drop_take_self,
    decodeLossy_nil]

end

/-- A cut through the bytes of a text: the first character is read if it is whole, and what is behind it is
cut in its turn. -/
theorem decodeLossy_cut (c : Char) (rest : List UInt8) (start stop : Nat) :
    decodeLossy (((String.utf8EncodeChar c ++ rest).take stop).drop start) =
      (if start = 0 ∧ (String.utf8EncodeChar c).length ≤ stop then [c] else []) ++
        decodeLossy ((rest.take (stop - (String.utf8EncodeChar c).length)).drop
          (start - (String.utf8EncodeChar c).length)) := by
  obtain ⟨b, bs, hc, hspells⟩ := spells_utf8EncodeChar c
  rw [hc, List.length_cons, List.cons_append]
  cases stop with
  | zero => simp [decodeLossy_nil]
  | succ stop =>
    rw [List.take_succ_cons, Nat.add_sub_add_right]
    have hwhole : bs.length ≤ stop → (bs ++ rest).take stop = bs ++ rest.take (stop - bs.length) := by
      intro hstop
      rw [List.take_append, List.take_of_length_le hstop]
    have hpart : ¬ bs.length ≤ stop → (bs ++ rest).take stop = bs.take stop ∧
        rest.take (stop - bs.length) = [] := by
      intro hstop
      rw [List.take_append_of_le_length (by omega), Nat.sub_eq_zero_of_le (by omega)]
      exact ⟨rfl, List.take_zero⟩
    cases start with
    | zero =>
      by_cases hstop : bs.length ≤ stop
      · rw [hwhole hstop, List.drop_zero, decodeLossy_of_ok (next_append hspells.next _),
          if_pos ⟨rfl, Nat.succ_le_succ hstop⟩, Nat.zero_sub, List.drop_zero]
        rfl
      · rw [(hpart hstop).1, (hpart hstop).2, List.drop_zero, hspells.decodeLossy_take (by omega),
          if_neg (by omega), List.drop_nil, decodeLossy_nil]
        rfl
    | succ start =>
      rw [List.drop_succ_cons, Nat.add_sub_add_right, if_neg (by omega), List.nil_append]
      by_cases hstop : bs.length ≤ stop
      · rw [hwhole hstop, List.drop_append]
        exact decodeLossy_append_of_continues
          (fun x hx => hspells.continues x (List.mem_of_mem_drop hx)) _
      · rw [(hpart hstop).1, (hpart hstop).2, List.drop_nil, ← List.append_nil ((bs.take stop).drop start)]
        exact decodeLossy_append_of_continues (fun x hx =>
          hspells.continues x (List.mem_of_mem_take (List.mem_of_mem_drop hx))) []

theorem length_utf8EncodeChar_pos (c : Char) : 0 < (String.utf8EncodeChar c).length := by
  rw [String.length_utf8EncodeChar]
  exact c.utf8Size_pos

/-- The characters of a text, each with where its bytes start and where they end, if the first one starts
at `place`. -/
def ranges (place : Nat) : List Char → List (Char × Nat × Nat)
  | [] => []
  | c :: cs =>
    let behind := place + (String.utf8EncodeChar c).length
    (c, place, behind) :: ranges behind cs

theorem map_fst_ranges (place : Nat) (cs : List Char) : (ranges place cs).map (·.1) = cs := by
  induction cs generalizing place with
  | nil => rfl
  | cons c cs ih => exact congrArg (c :: ·) (ih _)

/-- The characters of a text of which all bytes lie between two places. -/
def within (start stop : Nat) (cs : List Char) : List Char :=
  ((ranges 0 cs).filter fun r => start ≤ r.2.1 ∧ r.2.2 ≤ stop).map (·.1)

theorem bytes_of_mem_ranges {cs : List Char} {place i j : Nat} {c : Char}
    (h : (c, i, j) ∈ ranges place cs) : place ≤ i ∧ i < j ∧
      ((encode cs).take (j - place)).drop (i - place) = String.utf8EncodeChar c := by
  induction cs generalizing place with
  | nil => cases h
  | cons d cs ih =>
    have hd := length_utf8EncodeChar_pos d
    rcases List.mem_cons.mp h with h | h
    · cases h
      refine ⟨Nat.le_refl _, by omega, ?_⟩
      rw [encode_cons, Nat.sub_self, List.drop_zero, Nat.add_sub_cancel_left, List.take_left]
    · obtain ⟨hi, hij, hbytes⟩ := ih h
      refine ⟨by omega, hij, ?_⟩
      rw [encode_cons, List.take_append, List.take_of_length_le (by omega), List.drop_append,
        List.drop_of_length_le (by omega), List.nil_append, Nat.sub_sub, Nat.sub_sub, hbytes]

/-- Bytes cut out of a text are read as the characters that lie within them. -/
theorem decodeLossy_eq_within (cs : List Char) (start stop : Nat) :
    decodeLossy (((encode cs).take stop).drop start) = within start stop cs := by
  have hfrom : ∀ place, decodeLossy (((encode cs).take (stop - place)).drop (start - place)) =
      ((ranges place cs).filter fun r => start ≤ r.2.1 ∧ r.2.2 ≤ stop).map (·.1) := by
    induction cs with
    | nil =>
      intro place
      rw [encode, List.flatMap_nil, List.take_nil, List.drop_nil, decodeLossy_nil]
      rfl
    | cons c cs ih =>
      intro place
      have hc := length_utf8EncodeChar_pos c
      have hinside : start - place = 0 ∧ (String.utf8EncodeChar c).length ≤ stop - place ↔
          start ≤ place ∧ place + (String.utf8EncodeChar c).length ≤ stop := by omega
      rw [encode_cons, decodeLossy_cut, Nat.sub_sub, Nat.sub_sub, ih, ranges, List.filter_cons]
      simp only [hinside, decide_eq_true_eq]
      split
      · rfl
      · rfl
  exact hfrom 0

end SchemaWrappers.Utf8
