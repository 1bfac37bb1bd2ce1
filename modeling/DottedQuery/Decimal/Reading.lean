/-
# DottedQuery.Decimal.Reading -- decimal text to the nearest double

A decimal number is an integer times a power of ten. `nearest` rounds it correctly;
`number?` reads the usual spellings: an optional sign, digits with or without a point on
either side, an optional exponent, or a word for infinity or not-a-number.
-/
import DottedQuery.Text.LetterCase

namespace DottedQuery.Decimal

/-- What a list of decimal digits counts. -/
def natOfDigits (digits : List Char) : Nat :=
  digits.foldl (fun n c => n * 10 + (c.toNat - 48)) 0

/-- The double nearest to `m * 10 ^ e`, ties to even. An exponent far out of range is
answered without computing the power. -/
def nearest (m : Nat) (e : Int) : Float :=
  if m = 0 then 0.0
  else
    let size : Int := (Nat.toDigits 10 m).length
    if 400 < size + e then Float.ofBits 0x7FF0000000000000
    else if size + e < -400 then 0.0
    else if 0 ≤ e then Float.ofScientific m false e.toNat
    else Float.ofScientific m true (-e).toNat

/-- A decimal numeral taken apart: digits before and after the point, and the exponent. -/
structure Numeral where
  whole : List Char
  fraction : List Char
  exponent : Int

/-- The double nearest to what the numeral says. -/
def Numeral.value (n : Numeral) : Float :=
  nearest (natOfDigits (n.whole ++ n.fraction)) (n.exponent - n.fraction.length)

/-- A sign and the rest; a text without a sign is positive. -/
def splitSign : List Char → Bool × List Char
  | '-' :: rest => (true, rest)
  | '+' :: rest => (false, rest)
  | rest => (false, rest)

/-- An exponent: a sign and at least one digit, to the end of the text. -/
def exponent? (s : List Char) : Option Int :=
  let (negative, digits) := splitSign s
  if digits.isEmpty || !digits.all Char.isDigit then none
  else
    let n : Int := natOfDigits digits
    some (if negative then -n else n)

/-- A numeral without a sign, to the end of the text: at least one digit beside the point,
and an exponent that may be missing. -/
def numeral? (s : List Char) : Option Numeral :=
  let whole := s.takeWhile Char.isDigit
  let rest := s.dropWhile Char.isDigit
  let (fraction, rest) :=
    match rest with
    | '.' :: after => (after.takeWhile Char.isDigit, after.dropWhile Char.isDigit)
    | _ => ([], rest)
  if whole.isEmpty && fraction.isEmpty then none
  else
    match rest with
    | [] => some ⟨whole, fraction, 0⟩
    | c :: power =>
      if c = 'e' ∨ c = 'E' then (exponent? power).map (⟨whole, fraction, ·⟩) else none

/-- A number with an optional sign; `inf`, `infinity` and `nan` are read in any case. -/
def number? (s : String) : Option Float :=
  let (negative, rest) := splitSign s.toList
  let word := Text.asciiLower (String.ofList rest)
  let size : Option Float :=
    if word == "inf" || word == "infinity" then some (Float.ofBits 0x7FF0000000000000)
    else if word == "nan" then some (Float.ofBits 0x7FF8000000000000)
    else (numeral? rest).map Numeral.value
  size.map fun x => if negative then -x else x

end DottedQuery.Decimal
