/-
# DottedQuery.Proofs.Decimal.Fractions -- which doubles are written with a fraction

A double that is compared with a text is compared by its own text, which should not be that of an
integer. So it is written with a point and a digit behind it, with one exception. Below `10 ^ -4` and
from `10 ^ 16` on doubles are written with an exponent, and a single digit then stands alone before it:
`1e16` has no point. `hasFraction_unsigned` and `dot_not_mem_of_isLone` say this of the digits that are
written, `isLone_shortest_iff` of the double itself, whatever way its digits are searched for: the
doubles without a fraction are those to which some number with a single digit rounds that is below
`10 ^ -4` or not below `10 ^ 16` (`Binary64.IsLone`). The digit that is written need not be the one of
that number. But two numbers with a single digit that are on different sides of one of the bounds never
round to the same double, since they are too far apart (`lt_of_roundsTo`).

Fraction or not, a double is never compared as an integer would be: its text has a point or an `e`
(`stringify_of_finite`).
-/
import DottedQuery.Plan.Condition
import DottedQuery.Proofs.Decimal.Shortest
import DottedQuery.Proofs.Decimal.Texts

namespace DottedQuery.Decimal

open Float.Model (Format UnpackedFloat)
open Float.Model.UnpackedFloat (unpackExponent)

variable {m : ℕ} {q k l : ℤ} {r s : ℚ} {a b : ℕ} {chars digits : List Char} {d : Digits} {x : Float}

/-! ## Finite doubles -/

theorem toNat_unpackExponent {spec : Format} (b : BitVec spec.numBits) :
    (unpackExponent b).toNat =
      b.toNat / 2 ^ spec.mantissaBitsWithoutImplicit % 2 ^ spec.exponentBits := by
  have hbits := spec.he
  rw [unpackExponent, BitVec.toNat_cast, BitVec.extractLsb_toNat, Nat.shiftRight_eq_div_pow]
  congr 2
  omega

/-- With all bits of the exponent set there is an infinity or a NaN. -/
theorem isFinite_unpack {spec : Format} {b : BitVec spec.numBits}
    (h : unpackExponent b = -BitVec.ofNat _ 1) : (UnpackedFloat.unpack spec b).isFinite = false := by
  unfold UnpackedFloat.unpack
  dsimp only
  rw [if_pos h]
  split
  · rfl
  · rfl

/-- The bits of a finite double give an integer and an exponent in range. -/
theorem isDouble_of_ofBits {bits : ℕ} (h : (Binary64.ofBits bits).magnitude = .finite m q) :
    IsDouble m q := by
  have hfraction : bits % Nat.pow 2 52 < 2 ^ 52 := Nat.mod_lt _ (by decide)
  unfold Binary64.ofBits at h
  dsimp only at h
  split at h
  · split at h <;> cases h
  split at h
  · cases h
    exact ⟨by omega, by omega, fun _ => rfl⟩
  · cases h
    refine ⟨?_, by omega, ?_⟩
    · show bits % Nat.pow 2 52 + 2 ^ 52 < 2 ^ 53
      omega
    · intro hsmall
      change bits % Nat.pow 2 52 + 2 ^ 52 < 2 ^ 52 at hsmall
      omega

theorem exists_finite (hx : x.isFinite = true) :
    ∃ m q, (Binary64.ofFloat x).magnitude = .finite m q ∧ IsDouble m q := by
  have hexponent : x.toBits.toNat / Nat.pow 2 52 % Nat.pow 2 11 ≠ 2047 := by
    intro hall
    have hones : @unpackExponent Format.binary64 x.toModel.toBits.toBitVec =
        -BitVec.ofNat _ 1 := by
      rw [BitVec.neg_one_eq_allOnes]
      apply BitVec.eq_of_toNat_eq
      rw [toNat_unpackExponent, BitVec.toNat_allOnes]
      exact hall
    have hnot : x.isFinite = false := isFinite_unpack hones
    rw [hnot] at hx
    cases hx
  have hfinite : ∃ m q, (Binary64.ofFloat x).magnitude = .finite m q := by
    unfold Binary64.ofFloat Binary64.ofBits
    dsimp only
    rw [if_neg hexponent]
    split
    · exact ⟨_, _, rfl⟩
    · exact ⟨_, _, rfl⟩
  obtain ⟨m, q, h⟩ := hfinite
  exact ⟨m, q, h, isDouble_of_ofBits h⟩

/-! ## Texts with a fraction -/

/-- There is a point with a digit behind it. -/
def HasFraction (chars : List Char) : Prop := ∃ c, c.isDigit = true ∧ ['.', c] <:+: chars

theorem HasFraction.mem (h : HasFraction chars) : '.' ∈ chars := by
  obtain ⟨c, -, hinfix⟩ := h
  exact hinfix.subset (List.mem_cons_self ..)

theorem HasFraction.append_left (before : List Char) (h : HasFraction chars) :
    HasFraction (before ++ chars) := by
  obtain ⟨c, hc, hinfix⟩ := h
  exact ⟨c, hc, hinfix.trans (List.suffix_append ..).isInfix⟩

theorem HasFraction.append_right (after : List Char) (h : HasFraction chars) :
    HasFraction (chars ++ after) := by
  obtain ⟨c, hc, hinfix⟩ := h
  exact ⟨c, hc, hinfix.trans (List.prefix_append ..).isInfix⟩

theorem hasFraction_point {c : Char} (hc : c.isDigit = true) (after : List Char) :
    HasFraction ('.' :: c :: after) :=
  ⟨c, hc, (List.prefix_append ['.', c] after).isInfix⟩

/-- A point that is not put behind the last digit. -/
theorem hasFraction_pointAfter {whole : ℕ} (hdigits : ∀ c ∈ digits, c.isDigit = true)
    (hwhole : whole < digits.length) : HasFraction (pointAfter whole digits) := by
  refine HasFraction.append_left _ ?_
  rw [List.drop_eq_getElem_cons hwhole]
  exact hasFraction_point (hdigits _ (List.getElem_mem hwhole)) _

/-- Positional notation always has a fraction where whole numbers keep theirs. -/
theorem hasFraction_positionalText (hdigits : ∀ c ∈ digits, c.isDigit = true) (hne : digits ≠ [])
    (e : ℤ) : HasFraction (positionalText true digits e) := by
  have hlength : 0 < digits.length := List.length_pos_of_ne_nil hne
  unfold positionalText
  dsimp only
  split
  · exact (hasFraction_point (c := '0') (by decide) []).append_left _
  split
  · exact hasFraction_pointAfter hdigits (by omega)
  · refine HasFraction.append_left ['0'] ?_
    cases (-e).toNat - digits.length with
    | zero =>
      cases digits with
      | nil => exact absurd rfl hne
      | cons c rest => exact hasFraction_point (hdigits c (List.mem_cons_self ..)) rest
    | succ zeros => exact hasFraction_point (c := '0') (by decide) (List.replicate zeros '0' ++ digits)

/-! ## Scientific notation -/

/-- Two digits or more have the point between the first and the second. -/
theorem hasFraction_scientific (hdigits : ∀ c ∈ digits, c.isDigit = true) (hlength : 1 < digits.length)
    (layout : Layout) (power : ℤ) : HasFraction (layout.scientific digits power) := by
  unfold Layout.scientific
  dsimp only
  rw [if_neg (by omega)]
  exact (((hasFraction_pointAfter hdigits hlength).append_right _).append_right _).append_right _

/-- A single digit is followed by the exponent. -/
theorem scientific_single (c : Char) (power : ℤ) :
    typed.scientific [c] power = c :: 'e' :: (toString power).toList := by
  have hwidth (n : ℕ) : List.replicate (1 - (Nat.toDigits 10 n).length) '0' = [] := by
    have hlength : 0 < (Nat.toDigits 10 n).length := List.length_pos_of_ne_nil Nat.toDigits_ne_nil
    rw [show 1 - (Nat.toDigits 10 n).length = 0 by omega, List.replicate_zero]
  have hnatural (n : ℕ) : (toString n).toList = Nat.toDigits 10 n := Nat.toList_repr
  unfold Layout.scientific typed
  dsimp only
  rw [hwidth]
  cases power with
  | ofNat n =>
    have hsign : (0 : ℤ) ≤ Int.ofNat n := Int.natCast_nonneg n
    rw [if_pos hsign]
    show c :: 'e' :: Nat.toDigits 10 n = c :: 'e' :: (toString n).toList
    rw [hnatural]
  | negSucc n =>
    have hsign : ¬(0 : ℤ) ≤ Int.negSucc n := by omega
    rw [if_neg hsign]
    show c :: 'e' :: '-' :: Nat.toDigits 10 (n + 1) = c :: 'e' :: ("-" ++ toString (n + 1)).toList
    rw [String.toList_append, hnatural]
    rfl

/-! ## The digits without a fraction -/

/-- A single digit that is written with an exponent. -/
def Digits.IsLone (d : Digits) : Prop :=
  d.digits ≠ 0 ∧ d.digits < 10 ∧ (d.exponent < -4 ∨ 16 ≤ d.exponent)

theorem positional_typed_iff (power : ℤ) : typed.positional power = true ↔ -4 ≤ power ∧ power < 16 := by
  simp [typed]

/-- The text of a single digit with an exponent. -/
theorem unsigned_of_isLone (h : d.IsLone) :
    typed.unsigned d = (toString d.digits).toList ++ 'e' :: (toString d.exponent).toList := by
  obtain ⟨hne, hlt, hfar⟩ := h
  have hdigits : Nat.toDigits 10 d.digits = [d.digits.digitChar] := Nat.toDigits_of_lt_base hlt
  have hchars : (toString d.digits).toList = [d.digits.digitChar] := Nat.toList_repr.trans hdigits
  have hpower : d.exponent + ((1 : ℕ) : ℤ) - 1 = d.exponent := by omega
  have hscientific : ¬(d.digits = 0 ∨ typed.positional d.exponent = true) := by
    rw [positional_typed_iff]
    omega
  unfold Layout.unsigned
  dsimp only
  rw [hdigits, hchars, List.length_singleton, hpower, if_neg hscientific, scientific_single]
  rfl

/-- All other digits are written with a fraction. -/
theorem hasFraction_unsigned (h : ¬d.IsLone) : HasFraction (typed.unsigned d) := by
  have hdigits : ∀ c ∈ Nat.toDigits 10 d.digits, c.isDigit = true := fun c hc =>
    Nat.isDigit_of_mem_toDigits (by decide) (by decide) hc
  unfold Layout.unsigned
  dsimp only
  split
  next => exact hasFraction_positionalText hdigits Nat.toDigits_ne_nil d.exponent
  next hscientific =>
    refine hasFraction_scientific hdigits ?_ typed _
    by_contra hshort
    have hlt : d.digits < 10 :=
      (Nat.length_toDigits_le_iff (by decide) (by decide)).mp (Nat.le_of_not_lt hshort)
    rw [Nat.toDigits_of_lt_base hlt, List.length_singleton, positional_typed_iff] at hscientific
    exact h ⟨by omega, hlt, by omega⟩

/-- The text of a single digit with an exponent has no point. -/
theorem dot_not_mem_of_isLone (h : d.IsLone) : '.' ∉ typed.unsigned d := by
  have hpoint : ¬('.'.isDigit = true ∨ '.' = '-') := by decide
  rw [unsigned_of_isLone h, List.mem_append, List.mem_cons]
  rintro (hdigit | hmark | hexponent)
  · exact hpoint (Or.inl (Text.isDigit_of_mem_repr hdigit))
  · exact absurd hmark (by decide)
  · exact hpoint (mem_toString hexponent)

/-- A point or an `e` tells the text of a double from that of an integer. -/
theorem exists_mark (d : Digits) : '.' ∈ typed.unsigned d ∨ 'e' ∈ typed.unsigned d := by
  by_cases h : d.IsLone
  · right
    rw [unsigned_of_isLone h]
    exact List.mem_append_right _ (List.mem_cons_self ..)
  · exact Or.inl (hasFraction_unsigned h).mem

/-! ## The doubles without a fraction -/

/-- No two numbers that round to the same double are a tenth apart, unless they are tiny: a double with
so few bits is one of the smallest. -/
theorem lt_of_roundsTo (h : IsDouble m q) (hr : RoundsTo m q r) (hs : RoundsTo m q s)
    (hlarge : 1 / 10 ^ 4 ≤ s) : 9 * s < 10 * r := by
  have hunit : (0 : ℚ) < 2 ^ q := by positivity
  have hlow := hr.bounds.1
  have hhigh := hs.bounds.2
  by_contra hapart
  have hfew : m < 10 := by
    have hcast : (m : ℚ) < 10 := by
      by_contra hmany
      nlinarith
    exact_mod_cast hcast
  have hq : q = -1074 := h.subnormal (by omega)
  have htiny : (2 : ℚ) ^ q ≤ 1 / 2 ^ 20 := by
    calc (2 : ℚ) ^ q ≤ 2 ^ (-20 : ℤ) := zpow_le_zpow_right₀ (by norm_num) (by omega)
      _ = 1 / 2 ^ 20 := by norm_num
  have hcast : (m : ℚ) ≤ 9 := by exact_mod_cast Nat.lt_succ_iff.mp hfew
  have hsmall : ((m : ℚ) + 1 / 2) * 2 ^ q ≤ (9 + 1 / 2) * (1 / 2 ^ 20) := by gcongr
  norm_num at hsmall hlarge
  linarith

/-- Of two numbers with a single digit that round to the same double, the one that is not tiny does not
have the greater exponent. -/
theorem exponent_le_of_roundsTo (hm : m ≠ 0) (h : IsDouble m q) (ha : a < 10)
    (hr : RoundsTo m q (a * 10 ^ k)) (hs : RoundsTo m q (b * 10 ^ l)) (hl : -4 ≤ l) : l ≤ k := by
  by_contra hlt
  have hunit : (0 : ℚ) < 10 ^ l := by positivity
  have hb : (1 : ℚ) ≤ b := by
    have hpos : (0 : ℚ) < b := (mul_pos_iff_of_pos_right hunit).mp (hs.pos hm)
    exact_mod_cast hpos
  have hdigit : (a : ℚ) ≤ 9 := by exact_mod_cast Nat.lt_succ_iff.mp ha
  have hlarge : (1 : ℚ) / 10 ^ 4 ≤ b * 10 ^ l := by
    calc (1 : ℚ) / 10 ^ 4 = 10 ^ (-4 : ℤ) := by norm_num
      _ ≤ 10 ^ l := zpow_le_zpow_right₀ (by norm_num) hl
      _ ≤ b * 10 ^ l := le_mul_of_one_le_left hunit.le hb
  have hclose := lt_of_roundsTo h hr hs hlarge
  have hapart : 10 * (a * 10 ^ k) ≤ 9 * ((b : ℚ) * 10 ^ l) := by
    calc 10 * ((a : ℚ) * 10 ^ k) = a * 10 ^ (k + 1) := by
            rw [zpow_add_one₀ (by norm_num)]
            ring
      _ ≤ 9 * 10 ^ (k + 1) := by gcongr
      _ ≤ 9 * 10 ^ l := by
          have hpow : (10 : ℚ) ^ (k + 1) ≤ 10 ^ l := zpow_le_zpow_right₀ (by norm_num) (by omega)
          gcongr
      _ ≤ 9 * ((b : ℚ) * 10 ^ l) := by
          have hmore : (10 : ℚ) ^ l ≤ b * 10 ^ l := le_mul_of_one_le_left hunit.le hb
          gcongr
  linarith

/-- A single digit is written with an exponent exactly if such a number rounds to the double. -/
theorem isLone_shortest_iff (hm : m ≠ 0) (h : IsDouble m q) (tie : Tie) :
    (shortest tie m q).IsLone ↔
      ∃ (a : ℕ) (k : ℤ), a < 10 ∧ (k < -4 ∨ 16 ≤ k) ∧ RoundsTo m q (a * 10 ^ k) := by
  have hwritten : RoundsTo m q ((shortest tie m q).digits * 10 ^ (shortest tie m q).exponent) :=
    shortest_roundsTo hm h tie
  constructor
  · rintro ⟨-, hlt, hfar⟩
    exact ⟨_, _, hlt, hfar, hwritten⟩
  · rintro ⟨a, k, ha, hfar, hround⟩
    have hlt : (shortest tie m q).digits < 10 := (shortest_single_iff hm h tie).mpr ⟨a, k, ha, hround⟩
    refine ⟨fun hzero => ?_, hlt, ?_⟩
    · have hpos := hwritten.pos hm
      rw [hzero] at hpos
      simp at hpos
    · -- what is written and the number that is known round to the same double
      have hle := fun hl => exponent_le_of_roundsTo hm h ha hround hwritten hl
      have hge := fun hk => exponent_le_of_roundsTo hm h hlt hwritten hround hk
      omega

/-- Some number with a single digit that is below `10 ^ -4` or not below `10 ^ 16` rounds to the double. -/
def Binary64.IsLone (x : Binary64) : Prop :=
  ∃ m q, x.magnitude = .finite m q ∧ m ≠ 0 ∧
    ∃ (a : ℕ) (k : ℤ), a < 10 ∧ (k < -4 ∨ 16 ≤ k) ∧ RoundsTo m q (a * 10 ^ k)

theorem isLone_iff (h : (Binary64.ofFloat x).magnitude = .finite m q) (hdouble : IsDouble m q) :
    (Binary64.ofFloat x).IsLone ↔ (shortest typed.tie m q).IsLone := by
  constructor
  · rintro ⟨m', q', h', hm, hround⟩
    rw [h] at h'
    cases h'
    exact (isLone_shortest_iff hm hdouble typed.tie).mpr hround
  · intro hlone
    have hm : m ≠ 0 := by
      rintro rfl
      exact hlone.1 rfl
    exact ⟨m, q, h, hm, (isLone_shortest_iff hm hdouble typed.tie).mp hlone⟩

/-- The text of a finite double is its digits behind a minus sign or none. -/
theorem toList_render (h : (Binary64.ofFloat x).magnitude = .finite m q) :
    (typed.render x).toList = (if (Binary64.ofFloat x).negative then ['-'] else []) ++
      typed.unsigned (shortest typed.tie m q) := by
  unfold Layout.render Layout.renderParts
  rw [h, String.toList_ofList]

end DottedQuery.Decimal

/-! ## Operands of text fields -/

namespace DottedQuery

open Decimal

/-- Every finite double has a text. It has a fraction unless a number with a single digit rounds to the
double that is too small or too large to be written without an exponent: then the text is a digit and an
exponent. In either case it is the text of no integer, and `exactly` and `not` compare a field of texts
with it. -/
theorem stringify_of_finite (x : Float) (hx : x.isFinite = true) :
    ∃ text, (Value.float x).stringify = some text ∧
      (HasFraction text.toList ↔ ¬(Binary64.ofFloat x).IsLone) ∧
      ((Binary64.ofFloat x).IsLone → ∃ sign ∈ ["", "-"], ∃ (digit : ℕ) (exponent : ℤ),
        text = sign ++ toString digit ++ "e" ++ toString exponent) ∧
      (∀ n : Int64, (Value.int n).stringify ≠ some text) ∧
      ∀ path, (FilterSpec.mk path .exactly (.float x)).condition .text =
          .ok (.compare .equal (.text text)) ∧
        (FilterSpec.mk path .not (.float x)).condition .text =
          .ok (.compare .different (.text text)) := by
  obtain ⟨m, q, hmagnitude, hdouble⟩ := exists_finite hx
  have hchars := toList_render hmagnitude
  have hlone := isLone_iff hmagnitude hdouble
  generalize hd : shortest typed.tie m q = d at hchars hlone
  refine ⟨typed.render x, rfl, ?_, ?_, ?_, fun path => ⟨rfl, rfl⟩⟩
  · rw [hlone]
    constructor
    · intro hfraction hd
      have hdot := hfraction.mem
      rw [hchars, List.mem_append] at hdot
      obtain hsign | hdot := hdot
      · split at hsign <;> simp at hsign
      · exact dot_not_mem_of_isLone hd hdot
    · intro hd
      rw [hchars]
      exact (hasFraction_unsigned hd).append_left _
  · intro hd
    refine ⟨if (Binary64.ofFloat x).negative then "-" else "", ?_, d.digits, d.exponent, ?_⟩
    · split <;> simp
    · apply String.toList_injective
      rw [hchars, unsigned_of_isLone (hlone.mp hd)]
      split <;> simp
  · intro n hn
    have htext : Value.intText n = typed.render x := Option.some.inj hn
    have hmark : '.' ∈ (Value.intText n).toList ∨ 'e' ∈ (Value.intText n).toList := by
      rw [htext, hchars]
      exact (exists_mark d).imp (List.mem_append_right _) (List.mem_append_right _)
    obtain hmark | hmark := hmark
    · exact absurd (mem_toString hmark) (by decide)
    · exact absurd (mem_toString hmark) (by decide)

namespace Rating

/-- The number `2`. -/
def two : Float := .ofBits 0x4000000000000000

/-- The number `10 ^ 16`. -/
def huge : Float := .ofBits 0x4341C37937E08000

/-- The double next to `10 ^ -5`. -/
def tiny : Float := .ofBits 0x3EE4F8B588E368F1

theorem stringify_of_finite_two :
    two.isFinite = true ∧ ∃ text, (Value.float two).stringify = some text ∧
      (HasFraction text.toList ↔ ¬(Binary64.ofFloat two).IsLone) ∧
      ((Binary64.ofFloat two).IsLone → ∃ sign ∈ ["", "-"], ∃ (digit : ℕ) (exponent : ℤ),
        text = sign ++ toString digit ++ "e" ++ toString exponent) ∧
      (∀ n : Int64, (Value.int n).stringify ≠ some text) ∧
      ∀ path, (FilterSpec.mk path .exactly (.float two)).condition .text =
          .ok (.compare .equal (.text text)) ∧
        (FilterSpec.mk path .not (.float two)).condition .text =
          .ok (.compare .different (.text text)) := by
  have hfinite : two.isFinite = true := by decide +kernel
  exact ⟨hfinite, stringify_of_finite two hfinite⟩

/-- Two texts without a point. -/
theorem texts_without_point :
    (huge.isFinite = true ∧ (Value.float huge).stringify = some "1e16" ∧
      ¬HasFraction "1e16".toList) ∧
    tiny.isFinite = true ∧ (Value.float tiny).stringify = some "1e-5" ∧
      ¬HasFraction "1e-5".toList := by
  refine ⟨⟨?_, ?_, fun h => ?_⟩, ?_, ?_, fun h => ?_⟩
  · decide +kernel
  · decide +kernel
  · exact absurd h.mem (by decide)
  · decide +kernel
  · decide +kernel
  · exact absurd h.mem (by decide)

end Rating

end DottedQuery
