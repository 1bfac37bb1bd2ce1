/-
# DottedQuery.Store.Affinity -- what a column makes of cells

The declared type of a column does not restrict its cells, but the column prefers some
classes of cells over others. A cell is turned into a preferred class where nothing is lost:
when it is stored, and when it is compared with the cells of the column. How texts of a
column compare is settled apart from that.
-/
import DottedQuery.Store.Cell
import DottedQuery.Store.TextEncoding
import DottedQuery.Text.LetterCase
import DottedQuery.Text.Occurrence

namespace DottedQuery.Store

/-! ## Affinities -/

/-- Which classes of cells a column prefers. -/
inductive Affinity where
  /-- None is preferred. -/
  | any
  | text
  | numeric
  | integer
  | real
  deriving DecidableEq, Repr

/-- Whether one of these words, in capitals, occurs in a declared type. -/
def mentions (declared : String) (words : List String) : Bool :=
  words.any fun word => Text.occursIn word.toList (Text.asciiUpper declared).toList

namespace Affinity

/-- The affinity of a column by its declared type. -/
def ofDeclared (declared : String) : Affinity :=
  if mentions declared ["INT"] then integer
  else if mentions declared ["CHAR", "CLOB", "TEXT"] then text
  else if declared.isEmpty || mentions declared ["BLOB"] then any
  else if mentions declared ["REAL", "FLOA", "DOUB"] then real
  else numeric

/-- Whether numbers are preferred. -/
def isNumeric : Affinity → Bool
  | any | text => false
  | numeric | integer | real => true

/-- A cell as it takes part in a comparison. -/
def compared (a : Affinity) (cell : Cell) : Cell :=
  match cell with
  | .text bytes => if a.isNumeric then (Cell.ofNumberText? bytes).getD cell else cell
  | .int _ | .real _ => if a = text then .text cell.textBytes else cell
  | .null | .blob _ => cell

/-- The integer that a double is, if it has 64 bits and is not the last one on either
side. -/
def wholeOf? (x : Float) : Option Int64 :=
  let n := x.toInt64
  if Float.ofInt n.toInt == x && Int64.minValue < n && n < Int64.maxValue then some n
  else none

/-- A cell as it is read back from a column in which it was put. -/
def stored (a : Affinity) (cell : Cell) : Cell :=
  match a.compared cell with
  | .real x =>
    match wholeOf? x with
    | some n =>
      if a = real then .real (Float.ofInt n.toInt) else if a.isNumeric then .int n else .real x
    | none => .real x
  | .int n => if a = real then .real (Float.ofInt n.toInt) else .int n
  | cell => cell

end Affinity

/-! ## Comparisons -/

/-- How texts of a column compare. -/
inductive Collation where
  /-- Byte by byte. -/
  | binary
  /-- ASCII case does not count. -/
  | noCase
  /-- Spaces at the end do not count. -/
  | rightTrim
  /-- Byte by byte as they are spelled in UTF-16. -/
  | utf16 (order : ByteOrder)
  deriving DecidableEq, Repr

/-- Whether only texts of the same characters are equal. -/
def Collation.isPlain : Collation → Bool
  | binary | utf16 _ => true
  | noCase | rightTrim => false

/-- How texts compare that are spelled in an encoding. -/
def Collation.spelledIn (c : Collation) (encoding : TextEncoding) : Collation :=
  match encoding, c with
  | .utf16 order, .binary => .utf16 order
  | _, c => c

/-- How the cells of a column compare. -/
structure Manner where
  affinity : Affinity := .any
  collation : Collation := .binary
  deriving DecidableEq, Repr

/-- How the cells of two columns compare: as numbers if one of the columns prefers them, and
texts as the first column has them. -/
def Manner.joined (m other : Manner) : Manner where
  affinity := if m.affinity.isNumeric || other.affinity.isNumeric then .numeric else .any
  collation := m.collation

end DottedQuery.Store
