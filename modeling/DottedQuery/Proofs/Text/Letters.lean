/-
# DottedQuery.Proofs.Text.Letters -- ASCII letters and digits

Whether a character is a letter or a digit of ASCII is seen from its number. What it is by the tables for all
of Unicode follows, since a range of a table either contains all small letters of ASCII or none of them
(`isAlphanumeric_of_isLower`, `isNumeric_of_isLower`, `isUppercase_of_isLower`).
-/
import DottedQuery.Text.Alphanumeric
import DottedQuery.Text.LetterCase

namespace DottedQuery.Text

variable {c : Char}

/-! ## Numbers of characters -/

theorem toNat_of_isLower (h : c.isLower = true) : 0x61 ≤ c.toNat ∧ c.toNat ≤ 0x7A := by
  obtain ⟨hlow, hhigh⟩ := Bool.and_eq_true_iff.mp h
  exact ⟨of_decide_eq_true hlow, of_decide_eq_true hhigh⟩

theorem toNat_of_isDigit (h : c.isDigit = true) : 0x30 ≤ c.toNat ∧ c.toNat ≤ 0x39 := by
  obtain ⟨hlow, hhigh⟩ := Bool.and_eq_true_iff.mp h
  exact ⟨of_decide_eq_true hlow, of_decide_eq_true hhigh⟩

theorem toNat_of_isAlphanum (h : c.isAlphanum = true) : 0x30 ≤ c.toNat ∧ c.toNat ≤ 0x7A := by
  obtain h | h := Bool.or_eq_true_iff.mp h
  · obtain h | h := Bool.or_eq_true_iff.mp h
    · have hupper : 0x41 ≤ c.toNat ∧ c.toNat ≤ 0x5A := of_decide_eq_true h
      omega
    · have hlower := toNat_of_isLower h
      omega
  · have hdigit := toNat_of_isDigit h
    omega

theorem toLower_of_isLower (h : c.isLower = true) : c.toLower = c := by
  have hc := toNat_of_isLower h
  unfold Char.toLower
  refine dif_neg fun hupper => ?_
  rw [ge_iff_le, UInt32.le_iff_toNat_le, UInt32.le_iff_toNat_le] at hupper
  change 65 ≤ c.toNat ∧ c.toNat ≤ 90 at hupper
  omega

theorem not_isDigit_of_isLower (h : c.isLower = true) : c.isDigit = false := by
  rw [← Bool.not_eq_true]
  intro hdigit
  have hc := toNat_of_isLower h
  have hc' := toNat_of_isDigit hdigit
  omega

/-- A natural number is written in digits. -/
theorem isDigit_of_mem_repr {n : Nat} (h : c ∈ (toString n).toList) : c.isDigit = true := by
  have hdigits : (toString n).toList = Nat.toDigits 10 n := Nat.toList_repr
  rw [hdigits] at h
  exact Nat.isDigit_of_mem_toDigits (by omega) (by omega) h

/-! ## Tables -/

theorem isAlphanumeric_of_isLower (h : c.isLower = true) : isAlphanumeric c = true := by
  have hlisted : (0x61, 0x7A) ∈ alphabetic := by decide +kernel
  obtain ⟨hlow, hhigh⟩ := toNat_of_isLower h
  rw [isAlphanumeric, isAlphabetic, Ranges.holds_of_mem hlisted hlow hhigh, Bool.true_or]

theorem isNumeric_of_isDigit (h : c.isDigit = true) : isNumeric c = true := by
  have hlisted : (0x30, 0x39) ∈ numeric := by decide +kernel
  obtain ⟨hlow, hhigh⟩ := toNat_of_isDigit h
  exact Ranges.holds_of_mem hlisted hlow hhigh

theorem isAlphanumeric_of_isDigit (h : c.isDigit = true) : isAlphanumeric c = true := by
  rw [isAlphanumeric, isNumeric_of_isDigit h, Bool.or_true]

theorem isNumeric_of_isLower (h : c.isLower = true) : isNumeric c = false := by
  have hapart : ∀ range ∈ numeric, range.2 < 0x61 ∨ 0x7A < range.1 := by decide +kernel
  rw [← Bool.not_eq_true]
  intro hnumeric
  obtain ⟨range, hrange, hlow, hhigh⟩ := Ranges.exists_of_holds hnumeric
  have hc := toNat_of_isLower h
  have hor := hapart range hrange
  omega

theorem isUppercase_of_isLower (h : c.isLower = true) : isUppercase c = false := by
  have hapart : ∀ range ∈ uppercase, range.2.1 < 0x61 ∨ 0x7A < range.1 := by decide +kernel
  rw [← Bool.not_eq_true, isUppercase, SteppedRanges.holds]
  simp only [List.any_eq_true, Bool.and_eq_true, decide_eq_true_eq]
  rintro ⟨range, hrange, ⟨hlow, hhigh⟩, -⟩
  have hc := toNat_of_isLower h
  have hor := hapart range hrange
  omega

theorem isAlphanumeric_underscore : isAlphanumeric '_' = false := by
  decide +kernel

end DottedQuery.Text
