/-
# DottedQuery.Text.Hex -- numbers and bytes in base sixteen

Hexadecimal digits in either case, numbers without leading zeros, and bytes with exactly
two digits. Reading accepts both cases.
-/

namespace DottedQuery.Text

/-- The digits of base sixteen in lower case. -/
def hexDigits : List Char :=
  ['0', '1', '2', '3', '4', '5', '6', '7', '8', '9', 'a', 'b', 'c', 'd', 'e', 'f']

/-- The lower case digit of a number below sixteen. -/
def hexDigit (n : Nat) : Char := hexDigits.getD n '0'

/-- What a hexadecimal digit of either case stands for. -/
def hexValue? (c : Char) : Option Nat :=
  if c.isDigit then some (c.toNat - 48)
  else if 'a' ≤ c ∧ c ≤ 'f' then some (c.toNat - 87)
  else if 'A' ≤ c ∧ c ≤ 'F' then some (c.toNat - 55)
  else none

/-- The number that a list of hexadecimal digits spells, if all of them are digits. -/
def hexNumber? (digits : List Char) : Option Nat :=
  digits.foldl (fun total c => do return (← total) * 16 + (← hexValue? c)) (some 0)

/-- A number in lower case digits, without leading zeros. -/
def hexText (n : Nat) : List Char := Nat.toDigits 16 n

/-- A byte as two lower case digits. -/
def hexByte (b : UInt8) : List Char := [hexDigit (b.toNat / 16), hexDigit (b.toNat % 16)]

/-- Bytes as lower case digits, two each. -/
def hexBytes (bytes : List UInt8) : String := String.ofList (bytes.flatMap hexByte)

/-- The bytes that pairs of digits spell. -/
def bytesOfHex? : List Char → Option (List UInt8)
  | [] => some []
  | [_] => none
  | high :: low :: rest => do
    let n ← hexNumber? [high, low]
    return UInt8.ofNat n :: (← bytesOfHex? rest)

end DottedQuery.Text
