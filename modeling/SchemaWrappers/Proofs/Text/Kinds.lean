import SchemaWrappers.Text.Character
import SchemaWrappers.Text.Identifier

namespace SchemaWrappers.Text

private def blankPoints : List Nat :=
  [0x09, 0x0a, 0x0b, 0x0c, 0x0d, 0x1c, 0x1d, 0x1e, 0x1f, 0x20, 0x85, 0xa0, 0x1680, 0x2000, 0x2001,
    0x2002, 0x2003, 0x2004, 0x2005, 0x2006, 0x2007, 0x2008, 0x2009, 0x200a, 0x2028, 0x2029, 0x202f,
    0x205f, 0x3000]

private theorem mem_blankPoints {c : Char} (h : isBlank c = true) : c.toNat ∈ blankPoints := by
  simp [isBlank] at h
  simp only [blankPoints, List.mem_cons, List.not_mem_nil, or_false]
  omega

theorem not_blank_of_isNamePart {c : Char} (h : isNamePart c = true) : isBlank c = false := by
  have hpoints : ∀ n ∈ blankPoints, isNamePart (Char.ofNat n) = false := by decide +kernel
  rw [Bool.eq_false_iff]
  intro hb
  have := hpoints _ (mem_blankPoints hb)
  rw [Char.ofNat_toNat, h] at this
  cases this

theorem not_blank_of_isWord {c : Char} (h : isWord c = true) : isBlank c = false :=
  not_blank_of_isNamePart (by rw [isNamePart, h, Bool.true_or])

theorem not_isDigit_of_not_decimal {c : Char} (h : isDecimalDigit c = false) : c.isDigit = false := by
  rw [isDecimalDigit, plainDigit] at h
  split at h
  · exact h
  · rename_i hc
    simp only [Char.isDigit, Bool.and_eq_false_iff, decide_eq_false_iff_not, UInt32.not_le]
    right
    simp only [Char.toNat] at hc
    rw [UInt32.lt_iff_toNat_lt]
    exact Nat.lt_of_lt_of_le (by decide) (Nat.not_lt.mp hc)

end SchemaWrappers.Text
