/-
# DottedQuery.Store.Arithmetic -- cells as numbers, truths and texts

Where a number is asked for, a text is the number that its beginning spells, and where a text
is asked for, a number is the text that it is written as. A truth is an integer, and null
where it is not known; arithmetic with null is null.
-/
import DottedQuery.Store.Affinity
import DottedQuery.Store.Token

namespace DottedQuery

/-! ## Digits after the point -/

/-- The double nearest to `m * 2 ^ q` with so many digits after the point; a half goes up. -/
def Decimal.roundedAt (places m : Nat) (q : Int) : Float :=
  let s := Decimal.Scaled.normal ⟨⟨m, q⟩, 0⟩
  let dropped := (-(places : Int) - s.power).toNat
  let unit := Nat.pow 10 dropped
  let digits := (2 * s.value.floor + unit) / (2 * unit)
  (Decimal.Numeral.mk (Nat.toDigits 10 digits) [] (s.power + dropped)).scaledValue

namespace Store

namespace Cell

/-! ## Numbers and truths -/

/-- The number that the beginning of a text spells. -/
def ofNumberStart (bytes : List UInt8) : Cell :=
  let s := (bytes.map fun b => Char.ofNat b.toNat).dropWhile isNumberBlank
  let (negative, s) := Decimal.splitSign s
  let length := Token.decimalLength (s.takeWhile (· ≠ '_'))
  (ofUnsigned? negative (s.take length)).getD (int 0)

/-- A cell as a number. -/
def number : Cell → Cell
  | null => null
  | int n => int n
  | real x => real x
  | text bytes | blob bytes => ofNumberStart bytes

/-- A cell as a double. -/
def toReal (cell : Cell) : Float :=
  match cell.number with
  | int n => Float.ofInt n.toInt
  | real x => x
  | _ => 0.0

/-- A cell as an integer: the nearest with 64 bits, where what follows the point is cut off. -/
def toWhole : Cell → Int64
  | null => 0
  | int n => n
  | real x => x.toInt64
  | text bytes | blob bytes =>
    let s := (bytes.map fun b => Char.ofNat b.toNat).dropWhile isNumberBlank
    let (negative, s) := Decimal.splitSign s
    let n : Int := Decimal.natOfDigits (s.takeWhile Char.isDigit)
    let n := if negative then -n else n
    Int64.ofInt (max Int64.minValue.toInt (min Int64.maxValue.toInt n))

/-- The truth of a cell. -/
def truth : Cell → Option Bool
  | null => none
  | int n => some (n != 0)
  | cell => some (cell.toReal != 0.0)

/-- A truth as a cell. -/
def ofTruth : Option Bool → Cell
  | none => null
  | some b => int (if b then 1 else 0)

/-- A double as a cell. -/
def ofReal (x : Float) : Cell := if x.isNaN then null else real x

/-! ## Arithmetic -/

/-- Two numbers together: as integers, if both are and the result has 64 bits, or else as
doubles. -/
def arithmetic (whole : Int → Int → Option Cell) (double : Float → Float → Cell) (a b : Cell) :
    Cell :=
  match a.number, b.number with
  | null, _ | _, null => null
  | int m, int n => (whole m.toInt n.toInt).getD (double a.toReal b.toReal)
  | _, _ => double a.toReal b.toReal

/-- The sum. -/
def add : Cell → Cell → Cell := arithmetic (fun m n => ofInt? (m + n)) fun x y => ofReal (x + y)

/-- The difference. -/
def subtract : Cell → Cell → Cell :=
  arithmetic (fun m n => ofInt? (m - n)) fun x y => ofReal (x - y)

/-- The product. -/
def multiply : Cell → Cell → Cell :=
  arithmetic (fun m n => ofInt? (m * n)) fun x y => ofReal (x * y)

/-- The quotient, cut off after the point if both are integers; null for the divisor 0. -/
def divide : Cell → Cell → Cell :=
  arithmetic (fun m n => if n = 0 then some null else ofInt? (m.tdiv n))
    fun x y => if y == 0.0 then null else ofReal (x / y)

/-- The remainder of integers; null for the divisor 0. -/
def remainder (a b : Cell) : Cell :=
  match a.number, b.number with
  | null, _ | _, null => null
  | int m, int n => if n = 0 then null else int (Int64.ofInt (m.toInt.tmod n.toInt))
  | _, _ =>
    if b.toWhole = 0 then null
    else real (Float.ofInt (a.toWhole.toInt.tmod b.toWhole.toInt))

/-- What becomes of two integers, unless one is null. -/
def bitwise (f : Int64 → Int64 → Int64) (a b : Cell) : Cell :=
  match a, b with
  | null, _ | _, null => null
  | a, b => int (f a.toWhole b.toWhole)

/-- The bits of an integer moved to the left, or to the right if the number is negative. -/
def shifted (n : Int64) (count : Int) : Int64 :=
  if 0 ≤ count then Int64.ofInt (n.toInt * Nat.pow 2 (min count 64).toNat)
  else Int64.ofInt (n.toInt / Nat.pow 2 (min (-count) 64).toNat)

/-- Two texts, one after the other. -/
def join (a b : Cell) : Cell :=
  match a, b with
  | null, _ | _, null => null
  | a, b => text (a.textBytes ++ b.textBytes)

/-- A cell as one of the class that is preferred, whatever is lost. -/
def cast (affinity : Affinity) (cell : Cell) : Cell :=
  match affinity, cell with
  | _, null => null
  | .any, cell => blob cell.textBytes
  | .text, cell => text cell.textBytes
  | .integer, cell => int cell.toWhole
  | .real, cell => real cell.toReal
  | .numeric, text bytes | .numeric, blob bytes => Affinity.numeric.stored (ofNumberStart bytes)
  | .numeric, cell => cell

/-! ## Texts -/

/-- A byte that continues a character. -/
def isContinuation (b : UInt8) : Bool := 0x80 ≤ b && b < 0xC0

/-- The bytes of each character of a text that need not be well formed. A byte that begins a
longer character takes all bytes after it that continue one. -/
def units (bytes : List UInt8) : List (List UInt8) :=
  let add (units : List (List UInt8)) (b : UInt8) : List (List UInt8) :=
    match units with
    | (lead :: more) :: others =>
      if 0xC0 ≤ lead && isContinuation b then (lead :: more ++ [b]) :: others else [b] :: units
    | units => [b] :: units
  (bytes.foldl add []).reverse

/-- What the first byte of a longer character adds to its number. -/
def leadBits (lead : UInt8) : Nat :=
  let n := lead.toNat
  if n < 0xE0 then n - 0xC0
  else if n < 0xF0 then n - 0xE0
  else if n < 0xF8 then n - 0xF0
  else if n < 0xFC then n - 0xF8
  else if n < 0xFE then n - 0xFC
  else 0

/-- The number of a character by its bytes. What is no number of a longer character becomes
U+FFFD. -/
def unitNumber : List UInt8 → Nat
  | [] => 0
  | lead :: more =>
    if lead < 0xC0 then lead.toNat
    else
      let add (n : Nat) (b : UInt8) : Nat := (n * 64 + (b.toNat - 0x80)) % UInt32.size
      let n := more.foldl add (leadBits lead)
      if n < 0x80 || (0xD800 ≤ n && n < 0xE000) || n = 0xFFFE || n = 0xFFFF then 0xFFFD else n

/-- The character with these bytes. -/
def unitChar (unit : List UInt8) : Char :=
  let n := unitNumber unit
  if n < 0x110000 then Char.ofNat n else '\uFFFD'

/-- The characters of the text that a cell spells. -/
def chars (cell : Cell) : List Char := (units cell.textBytes).map unitChar

/-- The bytes of each character before the first that is zero. -/
def visibleUnits (cell : Cell) : List (List UInt8) := units (cell.textBytes.takeWhile (· ≠ 0))

/-- The characters before the first that is zero. -/
def visibleChars (cell : Cell) : List Char := cell.visibleUnits.map unitChar

/-- A number of things as a cell. -/
def ofCount (n : Nat) : Cell := int (Int64.ofNat n)

/-- How long a cell is: the characters of a text, the bytes of a blob. -/
def length : Cell → Cell
  | null => null
  | blob bytes => ofCount bytes.length
  | cell => ofCount cell.visibleUnits.length

/-- The part of a sequence from a position on, of some length. A negative position counts
from the end, and a negative length goes back from the position. -/
def part {α : Type} (s : List α) (start length : Int) : List α :=
  let first : Int := if start < 0 then s.length + start else if 0 < start then start - 1 else -1
  let (first, last) := if length < 0 then (first + length, first) else (first, first + length)
  let first := max first 0
  (s.drop first.toNat).take (last - first).toNat

/-- The place of the first occurrence of bytes among others, counted from 1 after `n` places,
or 0. A byte that does not begin a place cannot be the first but at the very start. -/
def placeAfter (begins : UInt8 → Bool) (part : List UInt8) : Nat → List UInt8 → Nat
  | n, [] => if part.isEmpty then n + 1 else 0
  | n, b :: rest =>
    if n = 0 || begins b then
      if part.isPrefixOf (b :: rest) then n + 1 else placeAfter begins part (n + 1) rest
    else placeAfter begins part n rest

/-- Bytes without those at the start that make up some of these sequences, at most so many. -/
def withoutStart (others : List (List UInt8)) : Nat → List UInt8 → List UInt8
  | 0, s => s
  | limit + 1, s =>
    match others.find? (·.isPrefixOf s) with
    | some c => withoutStart others limit (s.drop c.length)
    | none => s

/-- The text with one text in the place of another, wherever that occurs. -/
def replaced (old new : List UInt8) : Nat → List UInt8 → List UInt8
  | 0, s => s
  | _, [] => []
  | limit + 1, b :: rest =>
    if old.isPrefixOf (b :: rest) then
      new ++ replaced old new limit ((b :: rest).drop old.length)
    else b :: replaced old new limit rest

/-! ## Bytes as characters -/

/-- The bytes of a text, each as the character of its number. -/
def byteChars (bytes : List UInt8) : List Char := bytes.map fun b => Char.ofNat b.toNat

/-- The bytes before the first that is zero, each as the character of its number. -/
def visibleByteChars (cell : Cell) : List Char :=
  byteChars (cell.textBytes.takeWhile (· != 0))

/-- A text of bytes that are given as characters. -/
def ofByteChars (s : List Char) : Cell := text (s.map fun c => UInt8.ofNat c.toNat)

/-- A text of ASCII characters. -/
def ofAscii (s : String) : Cell := ofByteChars s.toList

/-! ## Faults -/

end Cell

/-- Why a value cannot be worked out. -/
inductive ValueFault where
  | told (message : String)
  /-- The function depends on when it is called. -/
  | unsteady (function : String)
  deriving DecidableEq, Repr

/-- What is wrong, where the value is asked for at some kind of place. -/
def ValueFault.message (place : String) : ValueFault → String
  | told message => message
  | unsteady function => "non-deterministic use of " ++ function ++ "() in " ++ place

/-- What is worked out, or why it cannot be. -/
abbrev Worked := Except ValueFault

/-- Tells why a value cannot be worked out. -/
def complain {α : Type} (message : String) : Worked α := .error (.told message)

end Store

end DottedQuery
