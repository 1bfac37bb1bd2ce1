/-
# DottedQuery.Proofs.Decimal.Numbers -- what is read as a number is one

A double may be no number at all. Comparisons take no notice of such doubles, so it matters that none
comes of reading digits. Doubles are bits: operations take them apart, compute, and pack the result.
Packing makes nothing that is no number (`isNaN_unpack_pack`), and neither does rounding
(`isNaN_roundWithAccuracy`), so it is enough to look at the cases of the operations that reading uses.
-/
import DottedQuery.Decimal.Extended

namespace DottedQuery.Decimal

open Float.Model (Format UnpackedFloat)
open Float.Model.UnpackedFloat (Accuracy Sign unpackExponent unpackMantissa roundWithAccuracy)

variable {spec : Format} {u : UnpackedFloat} {x : Float}

/-! ## Choices -/

/-- A choice between two numbers is a number. -/
theorem isNaN_ite {c : Prop} [Decidable c] {u v : UnpackedFloat} (hu : c → u.isNaN = false)
    (hv : ¬c → v.isNaN = false) : (if c then u else v).isNaN = false := by
  split
  · exact hu ‹c›
  · exact hv ‹¬c›

theorem isNaN_dite {c : Prop} [Decidable c] {u : c → UnpackedFloat} {v : ¬c → UnpackedFloat}
    (hu : ∀ h, (u h).isNaN = false) (hv : ∀ h, (v h).isNaN = false) :
    (if h : c then u h else v h).isNaN = false := by
  split
  · exact hu _
  · exact hv _

/-! ## Packing -/

/-- Bits are a number unless all bits of the exponent are set and some of the mantissa are. -/
theorem isNaN_unpack {b : BitVec spec.numBits}
    (h : ¬(unpackExponent b = -BitVec.ofNat _ 1 ∧ unpackMantissa b ≠ BitVec.ofNat _ 0)) :
    (UnpackedFloat.unpack spec b).isNaN = false := by
  unfold UnpackedFloat.unpack
  refine isNaN_ite (fun hexponent => ?_) fun _ => ?_
  · exact isNaN_ite (fun _ => rfl) fun hmantissa => absurd ⟨hexponent, hmantissa⟩ h
  -- zeros, and numbers of both kinds
  · refine isNaN_ite (fun _ => ?_) fun _ => rfl
    exact isNaN_dite (fun _ => rfl) fun _ => rfl

/-- No bits of an exponent are set where all should be. -/
theorem zero_ne_neg_one (spec : Format) :
    BitVec.ofNat spec.exponentBits 0 ≠ -BitVec.ofNat spec.exponentBits 1 := by
  intro h
  have hbits := congrArg BitVec.toNat h
  rw [BitVec.neg_one_eq_allOnes, BitVec.toNat_allOnes, BitVec.toNat_zero] at hbits
  have hpow := Nat.pow_le_pow_right (show 0 < 2 by decide) spec.he
  omega

/-- Packing keeps numbers: a finite one that is too large becomes infinite, and the exponents of the
others have a bit that is not set. -/
theorem isNaN_unpack_pack (h : u.isNaN = false) :
    (UnpackedFloat.unpack spec (UnpackedFloat.pack spec u)).isNaN = false := by
  refine isNaN_unpack ?_
  rintro ⟨hexponent, hmantissa⟩
  revert hexponent hmantissa
  fun_cases UnpackedFloat.pack spec u with
  | case1 => cases h
  | case2 s => simp [UnpackedFloat.packedInfinity]
  | case3 s => simp [UnpackedFloat.packedZero]
  | case4 s m e hm biased hlarge => simp [UnpackedFloat.packedInfinity]
  | case5 s m e hm bits biased hsmall hnormal =>
    -- the exponent is below the largest one, which is not that of a finite number
    intro hexponent
    rw [UnpackedFloat.unpackExponent_packComponents] at hexponent
    have hbits := congrArg BitVec.toNat hexponent
    rw [BitVec.neg_one_eq_allOnes, BitVec.toNat_allOnes, BitVec.toNat_ofNat,
      Nat.mod_eq_of_lt (by omega)] at hbits
    omega
  | case6 s m e hm bits biased hsmall hsubnormal =>
    intro hexponent
    rw [UnpackedFloat.unpackExponent_packComponents] at hexponent
    exact absurd hexponent (zero_ne_neg_one spec)

theorem isNaN_ofModel_pack (h : u.isNaN = false) :
    (Float.ofModel (Float.Model.pack u)).isNaN = false :=
  isNaN_unpack_pack h

/-! ## Operations -/

/-- Rounding gives a finite number or zero. -/
theorem isNaN_roundWithAccuracy (s : Sign) (m : Nat) (e : Int) (a : Accuracy) :
    (roundWithAccuracy spec s m e a).isNaN = false := by
  unfold roundWithAccuracy
  exact isNaN_dite (fun _ => rfl) fun _ => rfl

theorem isNaN_neg (h : x.isNaN = false) : (-x).isNaN = false := by
  refine isNaN_ofModel_pack ?_
  have hx : x.toModel.unpack.isNaN = false := h
  revert hx
  cases x.toModel.unpack with
  | notANumber => exact fun hx => hx
  | infinity s | zero s | finite s m e hm => exact fun _ => rfl

/-- An integer is a number. -/
theorem isNaN_ofUInt64 (n : UInt64) : n.toFloat.isNaN = false := by
  refine isNaN_ofModel_pack ?_
  unfold UnpackedFloat.ofUInt64 UnpackedFloat.ofNat UnpackedFloat.ofInt UnpackedFloat.normalize
  split
  · exact isNaN_roundWithAccuracy ..
  · rfl
  · exact isNaN_roundWithAccuracy ..

/-- A finite number other than zero. -/
def isProper : UnpackedFloat → Bool
  | .finite .. => true
  | _ => false

/-- Products with and quotients by a finite number other than zero are numbers. -/
theorem isNaN_mul_and_div {v : UnpackedFloat} (hu : u.isNaN = false) (hv : isProper v = true) :
    (UnpackedFloat.mul spec u v).isNaN = false ∧ (UnpackedFloat.div spec u v).isNaN = false := by
  cases v with
  | notANumber | infinity s | zero s => cases hv
  | finite s' m' e' hm' =>
    cases u with
    | notANumber => cases hu
    | infinity s | zero s => exact ⟨rfl, rfl⟩
    | finite s m e hm => exact ⟨isNaN_roundWithAccuracy .., isNaN_roundWithAccuracy ..⟩

theorem isProper_powersOfTen : ∀ e (h : e < Float.exactlyRepresentablePowersOfTen.size),
    isProper (Float.exactlyRepresentablePowersOfTen[e]).toModel.unpack = true := by
  decide

theorem isNaN_unpacked_ofScientific (m : Nat) (e : Int) :
    (UnpackedFloat.ofScientific spec m e).isNaN = false := by
  unfold UnpackedFloat.ofScientific
  refine isNaN_dite (fun _ => rfl) fun _ => ?_
  -- a power of ten is not computed where it is too large or too small to matter
  refine isNaN_ite (fun _ => rfl) fun _ => ?_
  refine isNaN_ite (fun _ => rfl) fun _ => ?_
  refine isNaN_ite (fun _ => ?_) fun _ => ?_
  · exact isNaN_roundWithAccuracy ..
  · exact isNaN_roundWithAccuracy ..

/-- The nearest double to an integer times a power of ten is a number. -/
theorem isNaN_ofScientific (m : Nat) (s : Bool) (e : Nat) :
    (Float.ofScientific m s e).isNaN = false := by
  unfold Float.ofScientific
  split
  · have hm := isNaN_ofUInt64 m.toUInt64
    dsimp only
    split
    · exact isNaN_ofModel_pack (isNaN_mul_and_div hm (isProper_powersOfTen e _)).2
    · exact isNaN_ofModel_pack (isNaN_mul_and_div hm (isProper_powersOfTen e _)).1
  · exact isNaN_ofModel_pack (isNaN_unpacked_ofScientific ..)

theorem isNaN_infinity : (Float.ofBits 0x7FF0000000000000).isNaN = false := by
  refine isNaN_ofModel_pack ?_
  decide

/-! ## Reading -/

theorem isNaN_nearest (m : Nat) (e : Int) : (nearest m e).isNaN = false := by
  unfold nearest
  split
  · exact isNaN_ofScientific ..
  dsimp only
  split
  · exact isNaN_infinity
  split
  · exact isNaN_ofScientific ..
  split
  · exact isNaN_ofScientific ..
  · exact isNaN_ofScientific ..

theorem isNaN_toFloat (a : Extended) : a.toFloat.isNaN = false := by
  unfold Extended.toFloat
  split
  · exact isNaN_infinity
  split
  · exact isNaN_nearest ..
  · exact isNaN_nearest ..

/-- What a numeral spells is a number. -/
theorem isNaN_scaledValue (n : Numeral) : n.scaledValue.isNaN = false := by
  unfold Numeral.scaledValue
  dsimp only
  split
  · exact isNaN_ofScientific ..
  split
  · exact isNaN_infinity
  split
  · exact isNaN_ofScientific ..
  · exact isNaN_toFloat _

end DottedQuery.Decimal
