/-
# DottedQuery.Decimal.Rounded -- a fixed number of significant digits

The digits are taken from an integer below `10 ^ 19`. The number is brought there by
multiplications with powers of ten, which are rounded to 64 significant bits. The integer
itself is rounded with halves going up.
-/
import DottedQuery.Decimal.Extended
import DottedQuery.Decimal.Shortest

namespace DottedQuery.Decimal

/-! ## Scaling -/

/-- The number `value * 10 ^ power`. -/
structure Scaled where
  value : Extended
  power : Int
  deriving Repr

namespace Scaled

/-- How often one power of ten is multiplied with at most. -/
def rounds : Nat := 16

/-- Divides by a power of ten as long as the value is not below a limit. -/
def lower (limit : Extended) (n : Nat) : Nat → Scaled → Scaled
  | 0, s => s
  | fuel + 1, s =>
    if s.value.isBelow limit then s
    else lower limit n fuel ⟨s.value.times (.tenToMinus n), s.power + n⟩

/-- Multiplies with a power of ten as long as the value is below a limit. -/
def raise (limit : Extended) (n : Nat) : Nat → Scaled → Scaled
  | 0, s => s
  | fuel + 1, s =>
    if s.value.isBelow limit then raise limit n fuel ⟨s.value.times (.tenTo n), s.power - n⟩
    else s

/-- The number with a value between `10 ^ 17` and `10 ^ 19`. -/
def normal (s : Scaled) : Scaled :=
  if s.value.isBelow (.tenTo 19) then
    raise (.tenTo 17) 1 rounds
      (raise (.tenTo 7) 10 rounds (raise (.tenToMinus 97) 100 rounds s))
  else
    lower (.tenTo 19) 1 rounds (lower (.tenTo 29) 10 rounds (lower (.tenTo 119) 100 rounds s))

end Scaled

/-! ## Digits -/

/-- At most `count` significant digits of a natural number times a power of ten; a half goes
up. -/
def roundedNat (count n : Nat) (power : Int) : Digits :=
  let dropped := (Nat.toDigits 10 n).length - count
  let unit := Nat.pow 10 dropped
  Digits.trim (count + 1) ⟨(2 * n + unit) / (2 * unit), power + dropped⟩

/-- At most `count` significant digits of `m * 2 ^ q`. -/
def rounded (count : Nat) (m : Nat) (q : Int) : Digits :=
  if m = 0 then ⟨0, 0⟩
  else
    let s := Scaled.normal ⟨⟨m, q⟩, 0⟩
    roundedNat count s.value.floor s.power

/-! ## Digits around the point -/

/-- Significant digits without zeros at their end, and how many of them stand before the
point. -/
structure Positioned where
  digits : List Char
  point : Int
  deriving DecidableEq, Repr

namespace Positioned

/-- Leaves out zeros at the end. -/
def trim (p : Positioned) : Positioned :=
  { p with digits := (p.digits.reverse.dropWhile (· = '0')).reverse }

/-- The first `count` digits; a half goes up. -/
def first (count : Nat) (p : Positioned) : Positioned :=
  let kept := p.digits.take count
  if (p.digits.drop count).head?.any ('5' ≤ ·) then
    let next := Nat.toDigits 10 (natOfDigits kept + 1)
    ⟨next, p.point + next.length - kept.length⟩
  else { p with digits := kept }

/-- Rounds to a number of significant digits or, for a number that is not positive, to so many
digits after the point. There are never more than `most` significant digits. What lies wholly
behind the place of rounding stays as it is. -/
def round (round : Int) (most : Nat) (p : Positioned) : Positioned :=
  let count := if round ≤ 0 then p.point - round else round
  if count = 0 && round ≤ 0 && p.digits.head?.any ('5' ≤ ·) then ⟨['1'], p.point + 1⟩
  else if 0 < count && (count < p.digits.length || most < p.digits.length) then
    p.first (min count most).toNat
  else p

/-- The rounded digits of `m * 2 ^ q`. -/
def ofFinite (round : Int) (most m : Nat) (q : Int) : Positioned :=
  if m = 0 then ⟨['0'], 1⟩
  else
    let s := Scaled.normal ⟨⟨m, q⟩, 0⟩
    let digits := Nat.toDigits 10 s.value.floor
    ((Positioned.mk digits (digits.length + s.power)).round round most).trim

end Positioned

end DottedQuery.Decimal
