/-
# DottedQuery.Store.RecordBytes -- records as bytes

A record begins with the kinds of its cells, then come the cells. A kind tells how many bytes a
cell takes and what they spell. All numbers are written with the most significant byte first;
some are of varying size.
-/
import DottedQuery.Store.Cell
import DottedQuery.Store.TextEncoding

namespace DottedQuery.Store

/-! ## Numbers -/

/-- The number that bytes spell. -/
def bigEndian (bytes : List UInt8) : Nat := bytes.foldl (fun n b => n * 256 + b.toNat) 0

/-- The number that bytes spell in two's complement. -/
def bigEndianSigned (bytes : List UInt8) : Int :=
  let n := bigEndian bytes
  let bound := Nat.pow 256 bytes.length
  if 2 * n < bound then n else (n : Int) - bound

/-- A number of varying size. -/
structure Varying where
  value : Nat
  size : Nat
  deriving DecidableEq, Repr

/-- The greatest size of a number of varying size. -/
def varyingLimit : Nat := 9

/-- The numbers of varying size in a row of bytes. Seven bits of a byte count and the eighth
tells that the number goes on, but of the last possible byte all bits count. -/
def varyingsFrom (begun : Varying) : List UInt8 → List Varying
  | [] => []
  | b :: rest =>
    let size := begun.size + 1
    if size = varyingLimit then
      ⟨begun.value * 256 + b.toNat, size⟩ :: varyingsFrom ⟨0, 0⟩ rest
    else if b.toNat < 128 then
      ⟨begun.value * 128 + b.toNat, size⟩ :: varyingsFrom ⟨0, 0⟩ rest
    else varyingsFrom ⟨begun.value * 128 + (b.toNat - 128), size⟩ rest

/-- The numbers of varying size in a row of bytes. -/
def varyings (bytes : List UInt8) : List Varying := varyingsFrom ⟨0, 0⟩ bytes

/-- How many bytes numbers of varying size take. -/
def totalSize (numbers : List Varying) : Nat := numbers.foldl (fun n v => n + v.size) 0

/-! ## Cells -/

/-- How many bytes a cell of some kind takes. -/
def kindSize (kind : Nat) : Nat :=
  match kind with
  | 5 => 6
  | 6 | 7 => 8
  | n => if n < 5 then n else (n - 12) / 2

/-- A double as a cell; what is no number is null. -/
def realCell (x : Float) : Cell := if x.isNaN then .null else .real x

/-- The cell of some kind that bytes spell. Two kinds are not in use. -/
def kindCell (encoding : TextEncoding) (kind : Nat) (bytes : List UInt8) : Cell :=
  match kind with
  | 0 | 10 | 11 => .null
  | 7 => realCell (Float.ofBits (UInt64.ofNat (bigEndian bytes)))
  | 8 => .int 0
  | 9 => .int 1
  | n =>
    if n < 7 then .int (Int64.ofInt (bigEndianSigned bytes))
    else if n % 2 = 0 then .blob bytes
    else .text (encoding.toUtf8 bytes)

/-- The cells of these kinds, one after the other. Nothing may be left over. -/
def cellsOf? (encoding : TextEncoding) : List Nat → List UInt8 → Option Row
  | [], bytes => if bytes.isEmpty then some [] else none
  | kind :: rest, bytes =>
    let size := kindSize kind
    let cell := bytes.take size
    if cell.length < size then none
    else (cellsOf? encoding rest (bytes.drop size)).map (kindCell encoding kind cell :: ·)

/-- The cells of a record. The first number tells where the kinds end. A record without kinds
has no cells, whatever follows. -/
def recordCells? (encoding : TextEncoding) (bytes : List UInt8) : Option Row :=
  match varyings (bytes.take varyingLimit) with
  | [] => some []
  | first :: _ =>
    let numbers := varyings (bytes.take first.value)
    if first.value ≤ first.size then some []
    else if totalSize numbers = first.value then
      cellsOf? encoding (numbers.tail.map (·.value)) (bytes.drop first.value)
    else none

end DottedQuery.Store
