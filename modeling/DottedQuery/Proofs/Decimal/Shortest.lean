/-
# DottedQuery.Proofs.Decimal.Shortest -- the digits that are found read back

The search for digits compares natural numbers over a common denominator. Here its parts are told in
rationals: the interval is the set of the numbers that round to the double (`covers_of`), a grid has a
point in the interval exactly if one of the value's two neighbours on it is such a point
(`exists_onGrid?`), and the first grid is the one on which the value has a single digit
(`magnitude_spec`).

Two results are put together from them. The digits that are written read back as the double
(`shortest_roundsTo`): the last grid is fine enough for every double. And a single digit is written as
soon as any number with a single digit reads back (`shortest_single_iff`), however far it is from the
value: between such a number and the value there is always a point of the first grid.
-/
import DottedQuery.Decimal.Shortest
import Mathlib.Algebra.Order.Field.Power
import Mathlib.Data.Nat.Digits.Defs
import Mathlib.Tactic.Linarith
import Mathlib.Tactic.Positivity

namespace DottedQuery.Decimal

/-! ## What digits and doubles stand for -/

/-- The number that the digits write. -/
def Digits.value (d : Digits) : ℚ := d.digits * 10 ^ d.exponent

/-- How far below `m * 2 ^ q` numbers still round to it, in units of `2 ^ q`: half the way to the
double before it, which is only half a unit away from a power of two. -/
def gapBelow (m : ℕ) (q : ℤ) : ℚ := if m = 2 ^ 52 ∧ -1074 < q then 1 / 4 else 1 / 2

/-- The numbers that round to the double `m * 2 ^ q`: those between the middles to its neighbours, and
the middles themselves where `m` is even. -/
def RoundsTo (m : ℕ) (q : ℤ) (r : ℚ) : Prop :=
  if m % 2 = 0 then (m - gapBelow m q) * 2 ^ q ≤ r ∧ r ≤ (m + 1 / 2) * 2 ^ q
  else (m - gapBelow m q) * 2 ^ q < r ∧ r < (m + 1 / 2) * 2 ^ q

/-- The integers and exponents that finite doubles are made of. -/
structure IsDouble (m : ℕ) (q : ℤ) : Prop where
  lt_significand : m < 2 ^ 53
  finest_le : -1074 ≤ q
  subnormal : m < 2 ^ 52 → q = -1074

variable {m : ℕ} {q e : ℤ} {r s t : ℚ} {i : Interval} {tie : Tie} {d : Digits} {n : ℕ}

theorem gapBelow_cases (m : ℕ) (q : ℤ) :
    gapBelow m q = 1 / 2 ∨ m = 2 ^ 52 ∧ gapBelow m q = 1 / 4 := by
  unfold gapBelow
  split
  next h => exact Or.inr ⟨h.1, rfl⟩
  next => exact Or.inl rfl

theorem gapBelow_pos (m : ℕ) (q : ℤ) : 0 < gapBelow m q := by
  obtain hgap | ⟨-, hgap⟩ := gapBelow_cases m q
  · rw [hgap]
    norm_num
  · rw [hgap]
    norm_num

theorem RoundsTo.of_between (hlow : ((m : ℚ) - gapBelow m q) * 2 ^ q < r)
    (hhigh : r < ((m : ℚ) + 1 / 2) * 2 ^ q) : RoundsTo m q r := by
  unfold RoundsTo
  split
  · exact ⟨hlow.le, hhigh.le⟩
  · exact ⟨hlow, hhigh⟩

theorem RoundsTo.bounds (h : RoundsTo m q r) :
    ((m : ℚ) - 1 / 2) * 2 ^ q ≤ r ∧ r ≤ ((m : ℚ) + 1 / 2) * 2 ^ q := by
  have hgap : ((m : ℚ) - 1 / 2) * 2 ^ q ≤ ((m : ℚ) - gapBelow m q) * 2 ^ q := by
    have hunit : (0 : ℚ) < 2 ^ q := by positivity
    have hhalf : gapBelow m q ≤ 1 / 2 := by
      obtain hgap | ⟨-, hgap⟩ := gapBelow_cases m q
      · exact hgap.le
      · rw [hgap]
        norm_num
    gcongr
  unfold RoundsTo at h
  split at h
  · exact ⟨hgap.trans h.1, h.2⟩
  · exact ⟨hgap.trans h.1.le, h.2.le⟩

theorem RoundsTo.pos (hm : m ≠ 0) (h : RoundsTo m q r) : 0 < r := by
  have hunit : (0 : ℚ) < 2 ^ q := by positivity
  have hone : (1 : ℚ) ≤ m := by exact_mod_cast Nat.one_le_iff_ne_zero.mpr hm
  refine lt_of_lt_of_le (mul_pos ?_ hunit) h.bounds.1
  linarith

/-- Natural powers for both signs of an exponent are one power with that exponent. -/
theorem pow_toNat_eq {a : ℚ} (ha : a ≠ 0) (k : ℤ) : a ^ k.toNat = a ^ k * a ^ (-k).toNat := by
  rw [← zpow_natCast, ← zpow_natCast, ← zpow_add₀ ha]
  congr 1
  omega

/-! ## The interval -/

namespace Interval

/-- The numbers of the interval. -/
def Covers (i : Interval) (r : ℚ) : Prop :=
  if i.closed then (i.low : ℚ) ≤ r * i.scale ∧ r * i.scale ≤ i.high
  else (i.low : ℚ) < r * i.scale ∧ r * i.scale < i.high

/-- The value that the interval surrounds. -/
def exact (i : Interval) : ℚ := i.value / i.scale

theorem Covers.convex (hr : i.Covers r) (ht : i.Covers t) (hrs : r ≤ s) (hst : s ≤ t) :
    i.Covers s := by
  have hrs' : r * i.scale ≤ s * i.scale := by gcongr
  have hst' : s * i.scale ≤ t * i.scale := by gcongr
  unfold Covers at *
  split at hr
  · rw [if_pos ‹_›] at ht ⊢
    exact ⟨hr.1.trans hrs', hst'.trans ht.2⟩
  · rw [if_neg ‹_›] at ht ⊢
    exact ⟨hr.1.trans_le hrs', hst'.trans_lt ht.2⟩

/-- The comparisons of natural numbers decide what the interval covers. -/
theorem contains_iff {grid point : ℕ} (hgrid : 0 < grid) (hr : (point : ℚ) = r * i.scale * grid) :
    i.contains grid point = true ↔ i.Covers r := by
  have hpos : (0 : ℚ) < grid := by exact_mod_cast hgrid
  have hle (n : ℕ) : n * grid ≤ point ↔ (n : ℚ) ≤ r * i.scale := by
    rw [← Nat.cast_le (α := ℚ), hr, Nat.cast_mul, mul_le_mul_iff_left₀ hpos]
  have hge (n : ℕ) : point ≤ n * grid ↔ r * i.scale ≤ n := by
    rw [← Nat.cast_le (α := ℚ), hr, Nat.cast_mul, mul_le_mul_iff_left₀ hpos]
  unfold contains Covers
  split
  · rw [Bool.and_eq_true, decide_eq_true_eq, decide_eq_true_eq, hle, hge]
  · rw [Bool.and_eq_true, decide_eq_true_eq, decide_eq_true_eq, ← not_le, ← not_le, hge, hle, not_le,
      not_le]

/-! ## The interval of a double -/

theorem scale_of_pos (m : ℕ) (q : ℤ) : 0 < (Interval.of m q).scale :=
  Nat.pow_pos (by decide)

/-- The denominator brings a quarter of the unit to a natural number. -/
theorem unit_of_eq (q : ℤ) : (2 : ℚ) ^ (q - 2).toNat = 2 ^ q / 4 * 2 ^ (2 - q).toNat := by
  rw [pow_toNat_eq two_ne_zero (q - 2), zpow_sub₀ two_ne_zero, neg_sub]
  norm_num

theorem exact_of (m : ℕ) (q : ℤ) : (Interval.of m q).exact = m * 2 ^ q := by
  have hscale : (0 : ℚ) < 2 ^ (2 - q).toNat := by positivity
  unfold exact Interval.of
  dsimp only
  simp only [Nat.pow_eq, Nat.cast_mul, Nat.cast_pow, Nat.cast_ofNat]
  rw [unit_of_eq, div_eq_iff hscale.ne']
  ring

/-- The interval has the numbers that round to the double. -/
theorem covers_of (hm : m ≠ 0) : (Interval.of m q).Covers r ↔ RoundsTo m q r := by
  have hscale : (0 : ℚ) < 2 ^ (2 - q).toNat := by positivity
  have hlow : ((Interval.of m q).low : ℚ) =
      (m - gapBelow m q) * 2 ^ q * 2 ^ (2 - q).toNat := by
    unfold Interval.of gapBelow
    dsimp only
    simp only [Nat.pow_eq, Nat.cast_mul, Nat.cast_pow, Nat.cast_ofNat, unit_of_eq]
    split
    · rw [Nat.cast_sub (by omega)]
      push_cast
      ring
    · rw [Nat.cast_sub (by omega)]
      push_cast
      ring
  have hhigh : ((Interval.of m q).high : ℚ) = (m + 1 / 2) * 2 ^ q * 2 ^ (2 - q).toNat := by
    unfold Interval.of
    dsimp only
    simp only [Nat.pow_eq, Nat.cast_mul, Nat.cast_pow, Nat.cast_ofNat, Nat.cast_add, unit_of_eq]
    ring
  have hscaled : ((Interval.of m q).scale : ℚ) = 2 ^ (2 - q).toNat := by
    unfold Interval.of
    exact Nat.cast_pow 2 _
  have hclosed : ((Interval.of m q).closed = true) ↔ m % 2 = 0 := decide_eq_true_iff
  unfold Covers RoundsTo
  rw [hlow, hhigh, hscaled]
  simp only [hclosed, mul_le_mul_iff_left₀ hscale, mul_lt_mul_iff_left₀ hscale]

theorem covers_exact_of (hm : m ≠ 0) : (Interval.of m q).Covers (Interval.of m q).exact := by
  have hunit : (0 : ℚ) < 2 ^ q := by positivity
  have hgap := gapBelow_pos m q
  rw [covers_of hm, exact_of]
  refine RoundsTo.of_between ?_ ?_
  · exact mul_lt_mul_of_pos_right (by linarith) hunit
  · exact mul_lt_mul_of_pos_right (by linarith) hunit

/-! ## Grids -/

/-- The points of a grid that the interval has. -/
theorem contains_grid (i : Interval) (e : ℤ) (n : ℕ) :
    i.contains (Nat.pow 10 (-e).toNat) (n * Nat.pow 10 e.toNat * i.scale) = true ↔
      i.Covers (n * 10 ^ e) := by
  refine contains_iff (Nat.pow_pos (by decide)) ?_
  simp only [Nat.pow_eq, Nat.cast_mul, Nat.cast_pow, Nat.cast_ofNat]
  rw [pow_toNat_eq (by norm_num) e]
  ring

/-- The integer quotient is the last point of the grid that is not above the value. -/
theorem floor_bounds (hscale : 0 < i.scale) (e : ℤ) {floor : ℕ}
    (hfloor : i.value * Nat.pow 10 (-e).toNat / (Nat.pow 10 e.toNat * i.scale) = floor) :
    (floor : ℚ) * 10 ^ e ≤ i.exact ∧ i.exact < (floor + 1) * 10 ^ e := by
  have hscale' : (0 : ℚ) < i.scale := by exact_mod_cast hscale
  have hdown : (0 : ℚ) < 10 ^ (-e).toNat := by positivity
  have hup : (10 : ℚ) ^ e.toNat = 10 ^ e * 10 ^ (-e).toNat := pow_toNat_eq (by norm_num) e
  have hpos : 0 < Nat.pow 10 e.toNat * i.scale := Nat.mul_pos (Nat.pow_pos (by decide)) hscale
  have hle : ((floor * (Nat.pow 10 e.toNat * i.scale) : ℕ) : ℚ) ≤
      ((i.value * Nat.pow 10 (-e).toNat : ℕ) : ℚ) := by
    rw [Nat.cast_le, ← hfloor]
    exact Nat.div_mul_le_self _ _
  have hlt : ((i.value * Nat.pow 10 (-e).toNat : ℕ) : ℚ) <
      (((floor + 1) * (Nat.pow 10 e.toNat * i.scale) : ℕ) : ℚ) := by
    rw [Nat.cast_lt, ← hfloor]
    exact (Nat.div_lt_iff_lt_mul hpos).mp (Nat.lt_succ_self _)
  simp only [Nat.pow_eq, Nat.cast_mul, Nat.cast_pow, Nat.cast_ofNat, Nat.cast_add, Nat.cast_one,
    hup] at hle hlt
  unfold exact
  rw [le_div_iff₀ hscale', div_lt_iff₀ hscale']
  constructor
  · refine le_of_mul_le_mul_right ?_ hdown
    linarith
  · refine lt_of_mul_lt_mul_right ?_ hdown.le
    linarith

/-- What is found on a grid is a point of it, in the interval and at most a step away from the
value. -/
theorem onGrid?_eq_some (hscale : 0 < i.scale) (h : i.onGrid? tie e = some d) :
    d.exponent = e ∧ i.Covers d.value ∧
      ((d.digits : ℚ) - 1) * 10 ^ e ≤ i.exact ∧ i.exact < (d.digits + 1) * 10 ^ e := by
  have hstep : (0 : ℚ) < 10 ^ e := by positivity
  unfold onGrid? at h
  dsimp only at h
  generalize hfloor : i.value * Nat.pow 10 (-e).toNat / (Nat.pow 10 e.toNat * i.scale) = floor at h
  obtain ⟨hle, hlt⟩ := floor_bounds hscale e hfloor
  have hneighbour (n : ℕ) (hn : n = floor ∨ n = floor + 1)
      (hcontains : i.contains (Nat.pow 10 (-e).toNat) (n * Nat.pow 10 e.toNat * i.scale) = true) :
      (⟨n, e⟩ : Digits).exponent = e ∧ i.Covers (⟨n, e⟩ : Digits).value ∧
        ((n : ℚ) - 1) * 10 ^ e ≤ i.exact ∧ i.exact < (n + 1) * 10 ^ e := by
    refine ⟨rfl, (contains_grid i e n).mp hcontains, ?_⟩
    obtain rfl | rfl := hn
    · exact ⟨by linarith, hlt⟩
    · push_cast
      exact ⟨by linarith, by linarith⟩
  split at h
  next hbelow habove =>
    obtain rfl := Option.some.inj h
    -- both neighbours are there, and whichever is taken is one of them
    dsimp only
    split
    · exact hneighbour _ (Or.inl rfl) hbelow
    split
    · exact hneighbour _ (Or.inr rfl) habove
    cases tie with
    | up => exact hneighbour _ (Or.inr rfl) habove
    | toEven =>
      unfold Tie.choose
      dsimp only
      split
      · exact hneighbour _ (Or.inl rfl) hbelow
      · exact hneighbour _ (Or.inr rfl) habove
  next hbelow _ =>
    obtain rfl := Option.some.inj h
    exact hneighbour _ (Or.inl rfl) hbelow
  next _ habove =>
    obtain rfl := Option.some.inj h
    exact hneighbour _ (Or.inr rfl) habove
  next => cases h

/-- A grid with a point in the interval is not left without one: the points between that one and the
value are in the interval too, and one of them is the value's neighbour. -/
theorem exists_onGrid? (hscale : 0 < i.scale) (hexact : i.Covers i.exact) {n : ℕ}
    (hn : i.Covers (n * 10 ^ e)) (tie : Tie) : ∃ d, i.onGrid? tie e = some d := by
  have hstep : (0 : ℚ) < 10 ^ e := by positivity
  unfold onGrid?
  dsimp only
  generalize hfloor : i.value * Nat.pow 10 (-e).toNat / (Nat.pow 10 e.toNat * i.scale) = floor
  obtain ⟨hle, hlt⟩ := floor_bounds hscale e hfloor
  have hfound : i.contains (Nat.pow 10 (-e).toNat) (floor * Nat.pow 10 e.toNat * i.scale) = true ∨
      i.contains (Nat.pow 10 (-e).toNat) ((floor + 1) * Nat.pow 10 e.toNat * i.scale) = true := by
    rcases Nat.lt_or_ge floor n with hbeyond | hwithin
    · right
      refine (contains_grid i e (floor + 1)).mpr (hexact.convex hn ?_ ?_)
      · push_cast
        exact hlt.le
      · have hcast : ((floor + 1 : ℕ) : ℚ) ≤ n := by exact_mod_cast hbeyond
        gcongr
    · left
      refine (contains_grid i e floor).mpr (hn.convex hexact ?_ hle)
      gcongr
  split
  next => exact ⟨_, rfl⟩
  next => exact ⟨_, rfl⟩
  next => exact ⟨_, rfl⟩
  next hbelow habove =>
    rw [hbelow, habove] at hfound
    obtain hfound | hfound := hfound <;> cases hfound

/-! ## The first grid -/

/-- The digits of the value times a power of ten, if it is large enough to have any, tell between which
powers of ten the value is. -/
theorem length_toDigits_spec (hscale : 0 < i.scale) {places : ℕ}
    (hlarge : i.scale ≤ i.value * Nat.pow 10 places) {count : ℕ}
    (hcount : (Nat.toDigits 10 (i.value * Nat.pow 10 places / i.scale)).length = count) :
    (10 : ℚ) ^ ((count : ℤ) - places - 1) ≤ i.exact ∧ i.exact < 10 ^ ((count : ℤ) - places) := by
  generalize hn : i.value * Nat.pow 10 places / i.scale = n at hcount
  -- the number whose digits are counted is the value's neighbour on a very fine grid
  have hfloor : i.value * Nat.pow 10 (-(-(places : ℤ))).toNat /
      (Nat.pow 10 (-(places : ℤ)).toNat * i.scale) = n := by
    rw [neg_neg, Int.toNat_natCast, Int.toNat_of_nonpos (by omega), show Nat.pow 10 0 = 1 from rfl,
      Nat.one_mul, hn]
  obtain ⟨hle, hlt⟩ := floor_bounds hscale (-places) hfloor
  have hpos : 0 < n := by
    rw [← hn]
    exact Nat.div_pos hlarge hscale
  have hlength : 0 < count := by
    rw [← hcount]
    exact List.length_pos_of_ne_nil Nat.toDigits_ne_nil
  have habove : n + 1 ≤ 10 ^ count := (Nat.length_toDigits_le_iff (by decide) hlength).mp hcount.le
  have hbelow : 10 ^ (count - 1) ≤ n := by
    rcases Nat.lt_or_ge 1 count with hmore | hone
    · by_contra hless
      have := (Nat.length_toDigits_le_iff (by decide) (by omega)).mpr (Nat.lt_of_not_le hless)
      omega
    · rw [show count - 1 = 0 by omega]
      exact hpos
  constructor
  · calc (10 : ℚ) ^ ((count : ℤ) - places - 1) = ((10 ^ (count - 1) : ℕ) : ℚ) * 10 ^ (-places : ℤ) := by
          rw [Nat.cast_pow, Nat.cast_ofNat, ← zpow_natCast, ← zpow_add₀ (by norm_num)]
          congr 1
          omega
      _ ≤ (n : ℚ) * 10 ^ (-places : ℤ) := by gcongr
      _ ≤ i.exact := hle
  · calc i.exact < ((n : ℚ) + 1) * 10 ^ (-places : ℤ) := hlt
      _ = ((n + 1 : ℕ) : ℚ) * 10 ^ (-places : ℤ) := by push_cast; rfl
      _ ≤ ((10 ^ count : ℕ) : ℚ) * 10 ^ (-places : ℤ) := by gcongr
      _ = (10 : ℚ) ^ ((count : ℤ) - places) := by
          rw [Nat.cast_pow, Nat.cast_ofNat, ← zpow_natCast, ← zpow_add₀ (by norm_num)]
          rfl

/-- The magnitude is the least power of ten that is above the value. -/
theorem magnitude_spec (hscale : 0 < i.scale) (hlarge : i.scale ≤ i.value * Nat.pow 10 340) :
    (10 : ℚ) ^ (i.magnitude - 1) ≤ i.exact ∧ i.exact < 10 ^ i.magnitude :=
  length_toDigits_spec hscale hlarge rfl

/-- A double that is not zero is not too small for its digits to be counted. -/
theorem scale_of_le (hm : m ≠ 0) (hq : -1074 ≤ q) :
    (Interval.of m q).scale ≤ (Interval.of m q).value * Nat.pow 10 340 := by
  have hvalue : 0 < (Interval.of m q).value := Nat.mul_pos (by omega) (Nat.pow_pos (by decide))
  calc (Interval.of m q).scale = 2 ^ (2 - q).toNat := rfl
    _ ≤ 2 ^ 1076 := Nat.pow_le_pow_right (by decide) (by omega)
    _ ≤ Nat.pow 10 340 := by decide +kernel
    _ ≤ (Interval.of m q).value * Nat.pow 10 340 := Nat.le_mul_of_pos_left _ hvalue

/-- The powers of ten around a double. -/
theorem magnitude_of (hm : m ≠ 0) (hq : -1074 ≤ q) :
    (10 : ℚ) ^ ((Interval.of m q).magnitude - 1) ≤ m * 2 ^ q ∧
      m * 2 ^ q < (10 : ℚ) ^ (Interval.of m q).magnitude := by
  rw [← exact_of]
  exact magnitude_spec (scale_of_pos m q) (scale_of_le hm hq)

/-- A grid with a number that rounds to the double has one to be found. -/
theorem exists_onGrid?_of (hm : m ≠ 0) (hround : RoundsTo m q (n * 10 ^ e)) (tie : Tie) :
    ∃ d, (Interval.of m q).onGrid? tie e = some d :=
  exists_onGrid? (scale_of_pos m q) (covers_exact_of hm) ((covers_of hm).mpr hround) tie

end Interval

/-! ## Zeros at the end -/

theorem Digits.value_trim (fuel : ℕ) (d : Digits) : (d.trim fuel).value = d.value := by
  fun_induction Digits.trim fuel d with
  | case1 d => rfl
  | case2 fuel d h ih =>
    rw [ih]
    unfold Digits.value
    dsimp only
    have hdigits : (d.digits : ℚ) = (d.digits / 10 : ℕ) * 10 := by
      exact_mod_cast (Nat.div_mul_cancel (Nat.dvd_of_mod_eq_zero h.2)).symm
    rw [hdigits, zpow_add_one₀ (by norm_num)]
    ring
  | case3 fuel d h => rfl

theorem Digits.trim_digits_le (fuel : ℕ) (d : Digits) : (d.trim fuel).digits ≤ d.digits := by
  fun_induction Digits.trim fuel d with
  | case1 d => exact Nat.le_refl _
  | case2 fuel d h ih => exact ih.trans (Nat.div_le_self _ _)
  | case3 fuel d h => exact Nat.le_refl _

/-- Ten is one digit and a zero. -/
theorem Digits.trim_digits_lt (fuel : ℕ) (h : d.digits ≤ 10) : (d.trim (fuel + 1)).digits < 10 := by
  rw [Digits.trim]
  split
  · have hle := Digits.trim_digits_le fuel ⟨d.digits / 10, d.exponent + 1⟩
    dsimp only at hle
    omega
  · omega

/-! ## The search -/

/-- The digits are those of the first grid with a point in the interval. -/
theorem shortest_eq (hm : m ≠ 0) (tie : Tie) :
    shortest tie m q = (((List.range 17).findSome? fun (n : ℕ) =>
      (Interval.of m q).onGrid? tie ((Interval.of m q).magnitude - (n + 1 : ℕ))).getD ⟨0, 0⟩).trim 20 :=
  if_neg hm

/-- Seventeen digits are enough for every double: the last grid is finer than the doubles are, so that
its point below the value or the one above it rounds to the value. -/
theorem exists_seventeen_digits (hm : m ≠ 0) (h : IsDouble m q) :
    ∃ n : ℕ, RoundsTo m q (n * 10 ^ ((Interval.of m q).magnitude - 17)) := by
  generalize htop : (Interval.of m q).magnitude = top
  have hunit : (0 : ℚ) < 2 ^ q := by positivity
  have hstep : (0 : ℚ) < 10 ^ (top - 17) := by positivity
  -- a step of the grid is a small part of the value
  have hfine : (10 : ℚ) ^ (top - 17) * 10 ^ 16 ≤ m * 2 ^ q := by
    have hspec := (Interval.magnitude_of hm h.finest_le).1
    rw [htop] at hspec
    refine le_of_eq_of_le ?_ hspec
    rw [← zpow_natCast (10 : ℚ) 16, ← zpow_add₀ (by norm_num)]
    congr 1
    push_cast
    omega
  have hnarrow : (10 : ℚ) ^ (top - 17) < (gapBelow m q + 1 / 2) * 2 ^ q := by
    obtain hgap | ⟨rfl, hgap⟩ := gapBelow_cases m q
    · have hlt : (m : ℚ) < 2 ^ 53 := by exact_mod_cast h.lt_significand
      rw [hgap]
      nlinarith
    · rw [hgap]
      push_cast at hfine
      nlinarith
  obtain ⟨hle, hlt⟩ := Interval.floor_bounds (Interval.scale_of_pos m q) (top - 17) rfl
  generalize (Interval.of m q).value * Nat.pow 10 (-(top - 17)).toNat /
    (Nat.pow 10 (top - 17).toNat * (Interval.of m q).scale) = floor at hle hlt
  rw [Interval.exact_of] at hle hlt
  rcases lt_or_ge (((m : ℚ) - gapBelow m q) * 2 ^ q) (floor * 10 ^ (top - 17)) with hnear | hfar
  · exact ⟨floor, RoundsTo.of_between hnear (by linarith)⟩
  · have hgap := gapBelow_pos m q
    refine ⟨floor + 1, RoundsTo.of_between ?_ ?_⟩
    · push_cast
      nlinarith
    · push_cast
      linarith

/-- The search ends on one of the grids. -/
theorem exists_shortest (hm : m ≠ 0) (h : IsDouble m q) (tie : Tie) :
    ∃ e d, (Interval.of m q).onGrid? tie e = some d ∧ shortest tie m q = d.trim 20 := by
  obtain ⟨n, hn⟩ := exists_seventeen_digits hm h
  obtain ⟨d, hd⟩ := Interval.exists_onGrid?_of hm hn tie
  have hfound : ((List.range 17).findSome? fun (n : ℕ) => (Interval.of m q).onGrid? tie
      ((Interval.of m q).magnitude - (n + 1 : ℕ))).isSome = true :=
    List.findSome?_isSome_iff.mpr ⟨16, by decide, Option.isSome_of_eq_some hd⟩
  obtain ⟨d', hd'⟩ := Option.isSome_iff_exists.mp hfound
  obtain ⟨k, -, hk⟩ := List.exists_of_findSome?_eq_some hd'
  refine ⟨_, d', hk, ?_⟩
  rw [shortest_eq hm, hd']
  rfl

/-- What is written reads back as the double. -/
theorem shortest_roundsTo (hm : m ≠ 0) (h : IsDouble m q) (tie : Tie) :
    RoundsTo m q (shortest tie m q).value := by
  obtain ⟨e, d, hd, hshortest⟩ := exists_shortest hm h tie
  rw [hshortest, Digits.value_trim, ← Interval.covers_of hm]
  exact (Interval.onGrid?_eq_some (Interval.scale_of_pos m q) hd).2.1

/-- Where a number with a single digit rounds to the double, the first grid has a point that does. -/
theorem exists_first_grid (hm : m ≠ 0) (h : IsDouble m q) {a : ℕ} {k : ℤ} (ha : a < 10)
    (hround : RoundsTo m q (a * 10 ^ k)) :
    ∃ n : ℕ, RoundsTo m q (n * 10 ^ ((Interval.of m q).magnitude - 1)) := by
  have hspec := (Interval.magnitude_of hm h.finest_le).1
  generalize (Interval.of m q).magnitude = top at hspec
  rcases lt_or_ge k (top - 1) with hbelow | habove
  · -- the power of ten at the first digit is between that number and the value
    refine ⟨1, (Interval.covers_of hm).mp (((Interval.covers_of hm).mpr hround).convex
      (Interval.covers_exact_of hm) ?_ ?_)⟩
    · calc (a : ℚ) * 10 ^ k ≤ 10 * 10 ^ k := by
            have hcast : (a : ℚ) ≤ 10 := by exact_mod_cast ha.le
            gcongr
        _ = 10 ^ (k + 1) := by rw [zpow_add_one₀ (by norm_num), mul_comm]
        _ ≤ 10 ^ (top - 1) := zpow_le_zpow_right₀ (by norm_num) (by omega)
        _ = (1 : ℕ) * 10 ^ (top - 1) := by rw [Nat.cast_one, one_mul]
    · rw [Nat.cast_one, one_mul, Interval.exact_of]
      exact hspec
  · -- that number is itself on the grid
    refine ⟨a * 10 ^ (k - (top - 1)).toNat, ?_⟩
    have hpow : (10 : ℚ) ^ (k - (top - 1)).toNat * 10 ^ (top - 1) = 10 ^ k := by
      rw [← zpow_natCast, ← zpow_add₀ (by norm_num)]
      congr 1
      omega
    rw [Nat.cast_mul, Nat.cast_pow, Nat.cast_ofNat, mul_assoc, hpow]
    exact hround

/-- A single digit is written exactly if a number with a single digit rounds to the double. -/
theorem shortest_single_iff (hm : m ≠ 0) (h : IsDouble m q) (tie : Tie) :
    (shortest tie m q).digits < 10 ↔ ∃ (a : ℕ) (k : ℤ), a < 10 ∧ RoundsTo m q (a * 10 ^ k) := by
  constructor
  · exact fun hsingle => ⟨_, _, hsingle, shortest_roundsTo hm h tie⟩
  · rintro ⟨a, k, ha, hround⟩
    obtain ⟨n, hn⟩ := exists_first_grid hm h ha hround
    obtain ⟨d, hd⟩ := Interval.exists_onGrid?_of hm hn tie
    have hfirst : (Interval.of m q).onGrid? tie ((Interval.of m q).magnitude - (0 + 1 : ℕ)) = some d := hd
    rw [shortest_eq hm, show List.range 17 = 0 :: (List.range 16).map Nat.succ from rfl,
      List.findSome?_cons, hfirst]
    refine Digits.trim_digits_lt 19 ?_
    obtain ⟨-, -, hstep, -⟩ := Interval.onGrid?_eq_some (Interval.scale_of_pos m q) hd
    have hspec := (Interval.magnitude_of hm h.finest_le).2
    rw [Interval.exact_of] at hstep
    have hunit : (0 : ℚ) < 10 ^ ((Interval.of m q).magnitude - 1) := by positivity
    have hten : ((d.digits : ℚ) - 1) * 10 ^ ((Interval.of m q).magnitude - 1) <
        10 * 10 ^ ((Interval.of m q).magnitude - 1) := by
      refine lt_of_le_of_lt hstep (lt_of_lt_of_eq hspec ?_)
      rw [mul_comm, ← zpow_add_one₀ (by norm_num), sub_add_cancel]
    have hlt : (d.digits : ℚ) < 11 := by linarith [lt_of_mul_lt_mul_right hten hunit.le]
    exact Nat.lt_succ_iff.mp (by exact_mod_cast hlt)

/-- The least positive double is not `5 * 10 ^ -324`, but no other double is nearer to that. -/
example : shortest .up 1 (-1074) = ⟨5, -324⟩ := by decide +kernel

end DottedQuery.Decimal
