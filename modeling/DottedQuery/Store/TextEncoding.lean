/-
# DottedQuery.Store.TextEncoding -- how a database file spells its texts

All texts of a database file are in one encoding: UTF-8, or UTF-16 in one of two byte orders.
Texts are kept in UTF-8 once they are read. A unit of UTF-16 that is one half of a character
takes the unit after it as the other half; where there is none, it is spelled by itself.
-/
import DottedQuery.Text.Utf8

namespace DottedQuery.Store

/-- Which byte of a unit comes first. -/
inductive ByteOrder where
  | littleFirst
  | bigFirst
  deriving DecidableEq, Repr

namespace ByteOrder

/-- The unit that two bytes spell. -/
def unit (order : ByteOrder) (first second : UInt8) : Nat :=
  match order with
  | littleFirst => second.toNat * 256 + first.toNat
  | bigFirst => first.toNat * 256 + second.toNat

/-- The bytes that spell a unit. -/
def bytes (order : ByteOrder) (unit : Nat) : List UInt8 :=
  let big := UInt8.ofNat (unit / 256)
  let little := UInt8.ofNat (unit % 256)
  match order with
  | littleFirst => [little, big]
  | bigFirst => [big, little]

/-- The units that bytes spell. A byte that is left over at the end does not count. -/
def units (order : ByteOrder) : List UInt8 → List Nat
  | first :: second :: rest => order.unit first second :: units order rest
  | _ => []

end ByteOrder

/-! ## Units and characters -/

/-- Whether a unit is one half of a character. -/
def isHalf (unit : Nat) : Bool := 0xD800 ≤ unit && unit < 0xE000

/-- The number of the character of which two units are the halves. -/
def joinedHalves (first second : Nat) : Nat :=
  second % 0x400 + first % 0x40 * 0x400 + (first / 0x40 % 0x10 + 1) * 0x10000

/-- The numbers of the characters that units spell. -/
def charNumbers : List Nat → List Nat
  | a :: b :: rest =>
    if isHalf a then joinedHalves a b :: charNumbers rest else a :: charNumbers (b :: rest)
  | units => units

/-- The bytes that spell the character of a number in UTF-8, halves of characters included. -/
def numberBytes (n : Nat) : List UInt8 :=
  let tail (shift : Nat) : UInt8 := UInt8.ofNat (0x80 + n / shift % 0x40)
  if n < 0x80 then [UInt8.ofNat n]
  else if n < 0x800 then [UInt8.ofNat (0xC0 + n / 0x40), tail 1]
  else if n < 0x10000 then [UInt8.ofNat (0xE0 + n / 0x1000), tail 0x40, tail 1]
  else [UInt8.ofNat (0xF0 + n / 0x40000), tail 0x1000, tail 0x40, tail 1]

/-- The units of a character. -/
def charUnits (c : Char) : List Nat :=
  let n := c.toNat
  if n < 0x10000 then [n]
  else [0xD800 + (n - 0x10000) / 0x400, 0xDC00 + (n - 0x10000) % 0x400]

/-- The bytes that spell a text in UTF-16. -/
def ByteOrder.spelled (order : ByteOrder) (s : String) : List UInt8 :=
  s.toList.flatMap fun c => (charUnits c).flatMap order.bytes

/-! ## Encodings -/

/-- How a database file spells its texts. -/
inductive TextEncoding where
  | utf8
  | utf16 (order : ByteOrder)
  deriving DecidableEq, Repr

/-- A text of a database file in UTF-8. -/
def TextEncoding.toUtf8 (encoding : TextEncoding) (bytes : List UInt8) : List UInt8 :=
  match encoding with
  | utf8 => bytes
  | utf16 order => (charNumbers (order.units bytes)).flatMap numberBytes

/-- A text in UTF-8 as the bytes that spell it in UTF-16. -/
def utf16Bytes (order : ByteOrder) (bytes : List UInt8) : List UInt8 :=
  order.spelled (Text.ofUtf8Lossy bytes)

/-- Whether a text comes before another one: byte by byte, as they are spelled. For texts in UTF-8
that is the order by the numbers of their characters. -/
def TextEncoding.Before (encoding : TextEncoding) (a b : String) : Prop :=
  match encoding with
  | utf8 => a < b
  | utf16 order => order.spelled a < order.spelled b

instance TextEncoding.decidableBefore (encoding : TextEncoding) (a b : String) :
    Decidable (encoding.Before a b) :=
  match encoding with
  | utf8 => inferInstanceAs (Decidable (a < b))
  | utf16 order => inferInstanceAs (Decidable (order.spelled a < order.spelled b))

end DottedQuery.Store
