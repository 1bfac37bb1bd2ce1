/-
# DottedQuery.Decimal.Extended -- floating point with 64 significant bits

Products with powers of ten are taken in floating point with 64 significant bits: powers and
products are rounded to so many bits, ties to even. What that loses shows where a number
lies next to the middle between two candidates.
-/
import DottedQuery.Decimal.Reading

namespace DottedQuery.Decimal

/-! ## Numbers and products -/

/-- The number `m * 2 ^ q`, with `m ≤ 2 ^ 64`. -/
structure Extended where
  m : Nat
  q : Int
  deriving DecidableEq, Repr

namespace Extended

/-- How many significant bits a number has. -/
def precision : Nat := 64

/-- The nearest number to `m * 2 ^ q`, ties to even. -/
def nearest (m : Nat) (q : Int) : Extended :=
  let excess := m.log2 + 1 - precision
  let unit := Nat.pow 2 excess
  let floor := m / unit
  let rest := m % unit
  if unit < 2 * rest || (2 * rest = unit && floor % 2 = 1) then ⟨floor + 1, q + excess⟩
  else ⟨floor, q + excess⟩

/-- The product, rounded. -/
def times (a b : Extended) : Extended := nearest (a.m * b.m) (a.q + b.q)

/-- Whether one number is less than another. -/
def isBelow (a b : Extended) : Bool :=
  a.m * Nat.pow 2 (a.q - b.q).toNat < b.m * Nat.pow 2 (b.q - a.q).toNat

/-- The integer part. -/
def floor (a : Extended) : Nat := a.m * Nat.pow 2 a.q.toNat / Nat.pow 2 (-a.q).toNat

/-- A power of ten with a natural exponent, rounded. -/
def tenTo (n : Nat) : Extended := nearest (Nat.pow 10 n) 0

/-- A power of ten with a negative exponent, rounded. The quotient is taken to enough bits
that its rounding decides the nearest number. -/
def tenToMinus (n : Nat) : Extended :=
  let bits := (Nat.pow 10 n).log2 + 2 * precision
  nearest (Nat.pow 2 bits / Nat.pow 10 n) (-bits)

/-- The powers of ten that one is put together from: hundreds, tens and ones. -/
def powerSteps (n : Nat) : List Nat :=
  List.replicate (n / 100) 100 ++ List.replicate (n % 100 / 10) 10 ++ List.replicate (n % 10) 1

/-- The product with a power of ten, step by step. -/
def timesTenTo (a : Extended) (e : Int) : Extended :=
  if 0 ≤ e then (powerSteps e.toNat).foldl (fun a n => a.times (tenTo n)) a
  else (powerSteps (-e).toNat).foldl (fun a n => a.times (tenToMinus n)) a

/-- The greatest double. -/
def greatest : Extended := ⟨Nat.pow 2 53 - 1, 971⟩

/-- The nearest double; above the greatest there is only infinity. -/
def toFloat (a : Extended) : Float :=
  if greatest.isBelow a then Float.ofBits 0x7FF0000000000000
  else if 0 ≤ a.q then Decimal.nearest (a.m * Nat.pow 2 a.q.toNat) 0
  else Decimal.nearest (a.m * Nat.pow 5 (-a.q).toNat) a.q

end Extended

/-! ## Reading -/

/-- Digits are left out from where the number they spell would not have 64 bits any more. -/
def significandLimit : Nat := (UInt64.size - 10) / 10

/-- The number that the first digits spell, and how many digits are left out. -/
def significand (digits : List Char) : Nat × Nat :=
  digits.foldl
    (fun (n, left) c =>
      if n < significandLimit then (n * 10 + natOfDigits [c], left) else (n, left + 1))
    (0, 0)

/-- Brings the exponent towards zero as far as the number keeps its 64 bits. -/
def balance : Nat → Nat → Int → Nat × Int
  | 0, m, e => (m, e)
  | fuel + 1, m, e =>
    if 0 < e && m < UInt64.size / 10 then balance fuel (m * 10) (e - 1)
    else if e < 0 && m % 10 = 0 then balance fuel (m / 10) (e + 1)
    else (m, e)

/-- How often the exponent can be moved at most. -/
def balanceRounds : Nat := 20

/-- The double that comes of a numeral by products with powers of ten. -/
def Numeral.scaledValue (n : Numeral) : Float :=
  let digits := n.whole ++ n.fraction
  let (m, left) := significand digits
  let e : Int := n.exponent + left - n.fraction.length
  let size : Int := (Nat.toDigits 10 m).length + e
  if m = 0 then 0.0
  else if 400 < size then Float.ofBits 0x7FF0000000000000
  else if size < -400 then 0.0
  else
    let (m, e) := balance balanceRounds m e
    (Extended.timesTenTo ⟨m, 0⟩ e).toFloat

end DottedQuery.Decimal
