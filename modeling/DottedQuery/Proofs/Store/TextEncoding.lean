/-
# DottedQuery.Proofs.Store.TextEncoding -- an encoding puts texts in one order

A database puts texts in order byte by byte, and in UTF-16 the bytes are not in the order of the
characters. It is an order of texts all the same: different texts are spelled differently, whichever
byte of a unit comes first, since the first unit of a character tells whether there is a second
(`ByteOrder.spelled_injective`). So of two different texts one comes before the other
(`TextEncoding.before_of_ne`).
-/
import DottedQuery.Store.TextEncoding

namespace DottedQuery.Store

/-! ## Spelling -/

variable {order : ByteOrder} {s s' : List UInt8}

/-- Two bytes spell one unit. -/
theorem ByteOrder.bytes_append {u v : Nat} (hu : u < 0x10000) (hv : v < 0x10000)
    (h : order.bytes u ++ s = order.bytes v ++ s') : u = v ∧ s = s' := by
  obtain ⟨hbytes, hrest⟩ := List.append_inj h (by cases order <;> rfl)
  have hboth : UInt8.ofNat (u / 256) = UInt8.ofNat (v / 256) ∧
      UInt8.ofNat (u % 256) = UInt8.ofNat (v % 256) := by
    cases order with
    | littleFirst =>
      obtain ⟨hlittle, hbig⟩ := List.cons.inj hbytes
      exact ⟨(List.cons.inj hbig).1, hlittle⟩
    | bigFirst =>
      obtain ⟨hbig, hlittle⟩ := List.cons.inj hbytes
      exact ⟨hbig, (List.cons.inj hlittle).1⟩
  have hbig := congrArg UInt8.toNat hboth.1
  have hlittle := congrArg UInt8.toNat hboth.2
  rw [UInt8.toNat_ofNat', UInt8.toNat_ofNat'] at hbig hlittle
  exact ⟨by omega, hrest⟩

/-- The number of a character is that of no half, and not too great for two halves. -/
theorem number_cases (c : Char) : c.toNat < 0xD800 ∨ 0xDFFF < c.toNat ∧ c.toNat < 0x110000 := c.valid

/-- A character can be read off the beginning of the bytes that spell a text. -/
theorem charUnits_append {c d : Char}
    (h : (charUnits c).flatMap order.bytes ++ s = (charUnits d).flatMap order.bytes ++ s') :
    c = d ∧ s = s' := by
  have hc := number_cases c
  have hd := number_cases d
  suffices hnumber : c.toNat = d.toNat ∧ s = s' from ⟨Char.toNat_inj.mp hnumber.1, hnumber.2⟩
  unfold charUnits at h
  dsimp only at h
  split at h <;> split at h <;>
    simp only [List.flatMap_cons, List.flatMap_nil, List.append_nil, List.append_assoc] at h
  · exact ByteOrder.bytes_append (by omega) (by omega) h
  -- a character of one unit is no half
  · obtain ⟨hfirst, -⟩ := ByteOrder.bytes_append (by omega) (by omega) h
    omega
  · obtain ⟨hfirst, -⟩ := ByteOrder.bytes_append (by omega) (by omega) h
    omega
  · obtain ⟨hfirst, h⟩ := ByteOrder.bytes_append (by omega) (by omega) h
    obtain ⟨hsecond, hrest⟩ := ByteOrder.bytes_append (by omega) (by omega) h
    exact ⟨by omega, hrest⟩

theorem charUnits_ne_nil (c : Char) : (charUnits c).flatMap order.bytes ≠ [] := by
  unfold charUnits
  dsimp only
  split <;> cases order <;> simp [ByteOrder.bytes]

/-- Texts with the same bytes are the same. -/
theorem ByteOrder.spelled_injective {a b : String} (h : order.spelled a = order.spelled b) : a = b := by
  rw [← String.toList_inj]
  unfold spelled at h
  generalize a.toList = cs, b.toList = ds at h
  induction cs generalizing ds with
  | nil =>
    cases ds with
    | nil => rfl
    | cons d ds => exact absurd (List.append_eq_nil_iff.mp h.symm).1 (charUnits_ne_nil d)
  | cons c cs ih =>
    cases ds with
    | nil => exact absurd (List.append_eq_nil_iff.mp h).1 (charUnits_ne_nil c)
    | cons d ds =>
      obtain ⟨rfl, hrest⟩ := charUnits_append h
      rw [ih ds hrest]

/-! ## Order -/

namespace TextEncoding

variable {encoding : TextEncoding} {a b c : String}

/-- Of two texts one does not come before the other. -/
theorem not_before_total (encoding : TextEncoding) (a b : String) :
    ¬encoding.Before b a ∨ ¬encoding.Before a b := by
  cases encoding with
  | utf8 => exact String.le_total a b
  | utf16 order => exact List.le_total (order.spelled a) (order.spelled b)

theorem not_before_trans (h : ¬encoding.Before b a) (h' : ¬encoding.Before c b) :
    ¬encoding.Before c a := by
  cases encoding with
  | utf8 => exact String.le_trans h h'
  | utf16 order =>
    exact List.le_trans (List.not_lt.mp h) (List.not_lt.mp h')

/-- Of two different texts one comes before the other. -/
theorem before_of_ne (hne : a ≠ b) (h : ¬encoding.Before b a) : encoding.Before a b := by
  refine Decidable.byContradiction fun hafter => ?_
  cases encoding with
  | utf8 => exact hne (String.le_antisymm h hafter)
  | utf16 order =>
    exact hne (ByteOrder.spelled_injective (List.le_antisymm (List.not_lt.mp h) (List.not_lt.mp hafter)))

/-- With the little byte first, a letter beyond Latin-1 may come before one of ASCII. -/
example : (utf16 .littleFirst).Before "\u0100" "a" ∧ utf8.Before "a" "\u0100" := by decide

end TextEncoding

end DottedQuery.Store
