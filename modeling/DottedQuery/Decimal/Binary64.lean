/-
# DottedQuery.Decimal.Binary64 -- a double as an integer times a power of two

A finite double is `m * 2 ^ q` with `m < 2 ^ 53`. Comparing, printing and rounding are all
stated on this pair, so that they are exact integer arithmetic. `order` sends every number
to an integer that grows with it: doubles and integers compare through it as the reals
they stand for.
-/

namespace DottedQuery.Decimal

/-- What is left of a double without its sign. -/
inductive Magnitude where
  | finite (m : Nat) (q : Int)
  | infinite
  | nan
  deriving DecidableEq, Repr

/-- A double taken apart. -/
structure Binary64 where
  negative : Bool
  magnitude : Magnitude
  deriving DecidableEq, Repr

/-- Reads sign, exponent and fraction off the 64 bits. -/
def Binary64.ofBits (bits : Nat) : Binary64 :=
  let fraction : Nat := bits % Nat.pow 2 52
  let exponent : Nat := bits / Nat.pow 2 52 % Nat.pow 2 11
  { negative := bits / Nat.pow 2 63 % 2 == 1
    magnitude :=
      if exponent = 2047 then if fraction = 0 then .infinite else .nan
      else if exponent = 0 then .finite fraction (-1074)
      else .finite (fraction + Nat.pow 2 52) ((exponent : Int) - 1075) }

/-- A double taken apart. -/
def Binary64.ofFloat (x : Float) : Binary64 := .ofBits x.toBits.toNat

/-! ## Order -/

/-- Every finite double is a multiple of `2 ^ -1074`; this is the exponent of that unit. -/
def finest : Nat := 1074

/-- An integer that grows with the number: its multiple of the finest unit, and for the
infinities a bound beyond all finite doubles and all 64-bit integers. -/
def Binary64.order (x : Binary64) : Int :=
  let size : Nat :=
    match x.magnitude with
    | .finite m q => m * Nat.pow 2 (q + finest).toNat
    | .infinite => Nat.pow 2 (1025 + finest)
    | .nan => 0
  if x.negative then -(size : Int) else size

/-- The place of an integer in the same order. -/
def orderOfInt (n : Int) : Int := n * Nat.pow 2 finest

end DottedQuery.Decimal
