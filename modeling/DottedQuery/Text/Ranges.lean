/-
# DottedQuery.Text.Ranges -- classes of characters as lists of code point ranges

A character class of the Unicode character database is a list of closed ranges. Where
members alternate, as lower and upper case letters do in many scripts, a range carries
the distance between neighbours. Looking a character up is a scan of the list, so that a
fact about a range in the list is a fact about every character in it.
-/

namespace DottedQuery.Text

/-- Closed ranges of code points, `(first, last)`. -/
abbrev Ranges := List (Nat × Nat)

/-- Ranges `(first, last, distance)` whose members lie `distance` apart. -/
abbrev SteppedRanges := List (Nat × Nat × Nat)

/-- Whether the character lies in one of the ranges. -/
def Ranges.holds (ranges : Ranges) (c : Char) : Bool :=
  ranges.any fun range => range.1 ≤ c.toNat && c.toNat ≤ range.2

/-- Whether the character is a member of one of the stepped ranges. -/
def SteppedRanges.holds (ranges : SteppedRanges) (c : Char) : Bool :=
  ranges.any fun range =>
    range.1 ≤ c.toNat && c.toNat ≤ range.2.1 && (c.toNat - range.1) % range.2.2 == 0

/-- A character between the ends of a listed range is in the class. -/
theorem Ranges.holds_of_mem {ranges : Ranges} {range : Nat × Nat} {c : Char}
    (listed : range ∈ ranges) (low : range.1 ≤ c.toNat) (high : c.toNat ≤ range.2) :
    ranges.holds c = true := by
  simp only [Ranges.holds, List.any_eq_true, Bool.and_eq_true, decide_eq_true_eq]
  exact ⟨range, listed, low, high⟩

/-- A character in the class lies between the ends of a listed range. -/
theorem Ranges.exists_of_holds {ranges : Ranges} {c : Char} (held : ranges.holds c = true) :
    ∃ range ∈ ranges, range.1 ≤ c.toNat ∧ c.toNat ≤ range.2 := by
  simpa only [Ranges.holds, List.any_eq_true, Bool.and_eq_true, decide_eq_true_eq] using held

end DottedQuery.Text
