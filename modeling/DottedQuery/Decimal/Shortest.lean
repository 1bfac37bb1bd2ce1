/-
# DottedQuery.Decimal.Shortest -- the fewest digits that read back

A positive finite double stands for all reals that round to it: an interval, with its ends
included when the integer part `m` is even. Grids of one, two, ... seventeen significant
digits are tried in turn; on each, only the two neighbours of the value can be the nearest
point. The first grid with a neighbour in the interval wins, and of two such neighbours the
nearer one. Where both are equally near, the format says which one is taken: a `Tie`. All
comparisons are between natural numbers.
-/
import DottedQuery.Decimal.Binary64

namespace DottedQuery.Decimal

/-- `digits * 10 ^ exponent`. -/
structure Digits where
  digits : Nat
  exponent : Int
  deriving DecidableEq, Repr

/-- Which of two equally near neighbours is taken. -/
inductive Tie where
  /-- The one whose last digit is even. -/
  | toEven
  /-- The greater one. -/
  | up
  deriving DecidableEq, Repr

/-- The neighbour that is taken when `floor` and the number after it are equally near. -/
def Tie.choose (tie : Tie) (floor : Nat) : Nat :=
  match tie with
  | toEven => if floor % 2 = 0 then floor else floor + 1
  | up => floor + 1

/-- Drops trailing zeros of the digits, at most `fuel` of them, keeping the value. -/
def Digits.trim : Nat → Digits → Digits
  | 0, d => d
  | fuel + 1, d =>
    if d.digits ≠ 0 ∧ d.digits % 10 = 0 then trim fuel ⟨d.digits / 10, d.exponent + 1⟩ else d

/-- The reals that round to `m * 2 ^ q`, over the common denominator `scale`: the value is
`value / scale`, the interval runs from `low / scale` to `high / scale`. -/
structure Interval where
  low : Nat
  value : Nat
  high : Nat
  scale : Nat
  closed : Bool

/-- The interval of `m * 2 ^ q`. Below a power of two the neighbour is only half as far. -/
def Interval.of (m : Nat) (q : Int) : Interval :=
  let unit := Nat.pow 2 (q - 2).toNat
  { low := (if m = Nat.pow 2 52 ∧ -1074 < q then 4 * m - 1 else 4 * m - 2) * unit
    value := 4 * m * unit
    high := (4 * m + 2) * unit
    scale := Nat.pow 2 (2 - q).toNat
    closed := m % 2 = 0 }

/-- Whether `point / (grid * scale)` is in the interval. -/
def Interval.contains (i : Interval) (grid point : Nat) : Bool :=
  if i.closed then i.low * grid ≤ point && point ≤ i.high * grid
  else i.low * grid < point && point < i.high * grid

/-- The power of ten just above the value: the least `e` with value below `10 ^ e`. -/
def Interval.magnitude (i : Interval) : Int :=
  (Nat.toDigits 10 (i.value * Nat.pow 10 340 / i.scale)).length - 340

/-- The nearest point of the grid of multiples of `10 ^ exponent` in the interval, if one of
the value's two neighbours is in it. -/
def Interval.onGrid? (i : Interval) (tie : Tie) (exponent : Int) : Option Digits :=
  let up := Nat.pow 10 exponent.toNat
  let down := Nat.pow 10 (-exponent).toNat
  let floor := i.value * down / (up * i.scale)
  let below := floor * up * i.scale
  let above := (floor + 1) * up * i.scale
  let target := i.value * down
  match i.contains down below, i.contains down above with
  | true, true =>
    let nearer :=
      if target - below < above - target then floor
      else if above - target < target - below then floor + 1
      else tie.choose floor
    some ⟨nearer, exponent⟩
  | true, false => some ⟨floor, exponent⟩
  | false, true => some ⟨floor + 1, exponent⟩
  | false, false => none

/-- The fewest digits that read back as `m * 2 ^ q`, the nearest of them. -/
def shortest (tie : Tie) (m : Nat) (q : Int) : Digits :=
  if m = 0 then ⟨0, 0⟩ else
  let i := Interval.of m q
  let top := i.magnitude
  let found := (List.range 17).findSome? fun (n : Nat) => i.onGrid? tie (top - (n + 1 : Nat))
  (found.getD ⟨0, 0⟩).trim 20

end DottedQuery.Decimal
