/-
# DottedQuery.Store.Comparison -- conditions on cells

Cells compare by their rank, after they have been turned into the class that the column
prefers: the storage class first, numbers before texts before blobs, then the number itself
or the bytes, those of a text as its collation has them. Integers and doubles are compared as
the real numbers they are. Null has no rank, and a condition on a cell without rank is
neither true nor false, tests for null apart.
-/
import DottedQuery.Decimal.Binary64
import DottedQuery.Plan.Condition
import DottedQuery.Store.Affinity

namespace DottedQuery

namespace Store

/-! ## Storing -/

namespace Cell

/-- A value as a database stores it: a truth value is 0 or 1, and what is not a number is
null. -/
def ofValue : Value → Cell
  | .null => null
  | .bool b => int (if b then 1 else 0)
  | .int n => int n
  | .float x => if x.isNaN then null else real x
  | .text s => text (Text.toUtf8 s)
  | .bytes bytes => blob bytes

/-- A stored cell as a value of a field: an integer of a boolean field is true unless it
is 0, and a text that is not well formed is repaired. -/
def toValue (dataType : DataType) : Cell → Value
  | null => .null
  | int n => if dataType = .boolean then .bool (n != 0) else .int n
  | real x => .float x
  | text bytes => .text (Text.ofUtf8Lossy bytes)
  | blob bytes => .bytes bytes

/-! ## Ranks -/

/-- Bytes as numbers. -/
def bytesRank (bytes : List UInt8) : List Int := bytes.map fun b => (b.toNat : Int)

/-- An ASCII letter in upper case as the byte of its lower case. -/
def lowerByte (b : UInt8) : UInt8 := if 65 ≤ b && b ≤ 90 then b + 32 else b

/-- A text as numbers. Where case does not count, neither does what follows a zero byte, but
for its length. -/
def textRank (collation : Collation) (bytes : List UInt8) : List Int :=
  match collation with
  | .binary => bytesRank bytes
  | .utf16 order => bytesRank (utf16Bytes order bytes)
  | .rightTrim => bytesRank (bytes.reverse.dropWhile (· == 32)).reverse
  | .noCase =>
    let start := bytes.takeWhile (· != 0)
    let hidden : List Int := if bytes.contains 0 then [0, bytes.length] else []
    bytesRank (start.map lowerByte) ++ hidden

/-- Where the cell stands among all cells: ranks are compared from left to right, a shorter
one before its extensions. -/
def rank (m : Manner) (cell : Cell) : Option (List Int) :=
  match m.affinity.compared cell with
  | null => none
  | int n => some [0, Decimal.orderOfInt n.toInt]
  | real x => if x.isNaN then none else some [0, (Decimal.Binary64.ofFloat x).order]
  | text bytes => some (1 :: textRank m.collation bytes)
  | blob bytes => some (2 :: bytesRank bytes)

/-- Whether two cells are equal; null equals nothing. -/
def agrees (m : Manner) (a b : Cell) : Bool :=
  match a.rank m, b.rank m with
  | some a, some b => a = b
  | _, _ => false

end Cell

end Store

/-! ## Conditions -/

/-- Whether the comparison holds between two ranks. -/
def Comparison.holds (c : Comparison) (a b : List Int) : Bool :=
  match c with
  | equal => a = b
  | different => a ≠ b
  | less => a < b
  | greater => b < a

/-- The truth of a condition on a cell, none if it is unknown. -/
def Condition.truth (m : Store.Manner) (c : Condition) (cell : Store.Cell) : Option Bool :=
  let rank := cell.rank m
  match c with
  | compare comparison operand => do
    return comparison.holds (← rank) (← (Store.Cell.ofValue operand).rank m)
  | contains part => do
    let _ ← rank
    return Text.occursIn (Text.toUtf8 part) cell.textBytes
  | isNull => some rank.isNone
  | isNotNull => some rank.isSome

/-- Whether the condition is true of a cell. -/
def Condition.holds (m : Store.Manner) (c : Condition) (cell : Store.Cell) : Bool :=
  c.truth m cell = some true

end DottedQuery
