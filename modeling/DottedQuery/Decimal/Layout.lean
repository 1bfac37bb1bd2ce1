/-
# DottedQuery.Decimal.Layout -- how the digits of a double are laid out

Which digits are written is settled by `shortest`, up to the choice between two equally near
numbers. A `Layout` settles that choice and all the rest: between which powers of ten the
number is written positionally, whether a whole number keeps a fraction, and how an exponent
and the non-finite values look.
-/
import DottedQuery.Decimal.Shortest

namespace DottedQuery.Decimal

/-- The decisions of a number format. -/
structure Layout where
  /-- Which of two equally near numbers is written. -/
  tie : Tie
  /-- Whether a number whose first digit counts this power of ten is written positionally. -/
  positional : Int → Bool
  /-- Whether a whole number written positionally ends in `.0`. -/
  keepsFraction : Bool
  /-- What stands between the digits and a non-negative exponent. -/
  raised : String
  /-- Whether a single digit before an exponent is followed by `.0`. -/
  pointsMantissa : Bool := false
  /-- How many digits an exponent has at least. -/
  exponentWidth : Nat := 1
  /-- The text of a value that is not a number. -/
  nan : String
  /-- The texts of the positive and the negative infinity. -/
  infinite : Bool → String

/-- Digits with the point after the first `whole` of them, `whole` positive. -/
def pointAfter (whole : Nat) (digits : List Char) : List Char :=
  digits.take whole ++ '.' :: digits.drop whole

/-- Positional notation of `digits * 10 ^ exponent`. -/
def positionalText (keepsFraction : Bool) (digits : List Char) (exponent : Int) : List Char :=
  let tail := if keepsFraction then ['.', '0'] else []
  if 0 ≤ exponent then digits ++ List.replicate exponent.toNat '0' ++ tail
  else
    let places := (-exponent).toNat
    if places < digits.length then pointAfter (digits.length - places) digits
    else '0' :: '.' :: List.replicate (places - digits.length) '0' ++ digits

/-- Scientific notation: one digit before the point, then the exponent. -/
def Layout.scientific (layout : Layout) (digits : List Char) (power : Int) : List Char :=
  let mantissa :=
    if digits.length ≤ 1 then digits ++ (if layout.pointsMantissa then ['.', '0'] else [])
    else pointAfter 1 digits
  let mark := if 0 ≤ power then layout.raised.toList else ['e', '-']
  let exponent := Nat.toDigits 10 power.natAbs
  mantissa ++ mark ++ List.replicate (layout.exponentWidth - exponent.length) '0' ++ exponent

/-- The digits without their sign. -/
def Layout.unsigned (layout : Layout) (d : Digits) : List Char :=
  let digits := Nat.toDigits 10 d.digits
  let power := d.exponent + digits.length - 1
  if d.digits = 0 ∨ layout.positional power then
    positionalText layout.keepsFraction digits d.exponent
  else layout.scientific digits power

/-- The text of a double taken apart. -/
def Layout.renderParts (layout : Layout) (x : Binary64) : String :=
  match x.magnitude with
  | .nan => layout.nan
  | .infinite => layout.infinite x.negative
  | .finite m q =>
    String.ofList ((if x.negative then ['-'] else []) ++ layout.unsigned (shortest layout.tie m q))

/-- The text of a double. -/
def Layout.render (layout : Layout) (x : Float) : String := layout.renderParts (.ofFloat x)

/-! ## The formats in use -/

/-- Text that keeps the type visible: always a fraction or an exponent. Positional from
`1e-4` up to `1e16`. -/
def typed : Layout where
  tie := .up
  positional power := -4 ≤ power && power < 16
  keepsFraction := true
  raised := "e"
  nan := "NaN"
  infinite negative := if negative then "-inf" else "inf"

/-- Plain text: never an exponent, no fraction on a whole number. -/
def plain : Layout where
  tie := .up
  positional _ := true
  keepsFraction := false
  raised := "e"
  nan := "NaN"
  infinite negative := if negative then "-inf" else "inf"

/-- Numbers of a JSON text: positional from `1e-5` up to `1e16`, a signed exponent
elsewhere, and `null` for what JSON has no number for. -/
def json : Layout where
  tie := .toEven
  positional power := -5 ≤ power && power < 16
  keepsFraction := true
  raised := "e+"
  nan := "null"
  infinite _ := "null"

end DottedQuery.Decimal
