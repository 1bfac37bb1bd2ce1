/-
# DottedQuery.Store.Cell -- cells, and one kind of cell as another

Cells belong to five storage classes; a text is a sequence of bytes, which need not be well
formed. Every number can be written as a text, and a text that spells a number can be read as
one.
-/
import DottedQuery.Decimal.Layout
import DottedQuery.Decimal.Rounded
import DottedQuery.Text.Utf8
import DottedQuery.Value

namespace DottedQuery.Store

/-- A stored cell. -/
inductive Cell where
  | null
  | int (n : Int64)
  | real (x : Float)
  | text (bytes : List UInt8)
  | blob (bytes : List UInt8)
  deriving Inhabited, Repr

/-- One cell for each column. -/
abbrev Row := List Cell

namespace Cell

/-- A text as a cell. -/
def ofString (s : String) : Cell := text (Text.toUtf8 s)

/-! ## Numbers as texts -/

/-- A double in text: fifteen digits, positional from `1e-4` up to `1e15`. -/
def realLayout : Decimal.Layout where
  tie := .up
  positional power := -4 ≤ power && power < 15
  keepsFraction := true
  raised := "e+"
  pointsMantissa := true
  exponentWidth := 2
  nan := ""
  infinite negative := if negative then "-Inf" else "Inf"

/-- A double in text; zero has no sign. -/
def realText (x : Float) : String :=
  let parts := Decimal.Binary64.ofFloat x
  match parts.magnitude with
  | .nan | .infinite => realLayout.renderParts parts
  | .finite 0 _ => "0.0"
  | .finite m q =>
    let digits := realLayout.unsigned (Decimal.rounded 15 m q)
    String.ofList (if parts.negative then '-' :: digits else digits)

/-- The bytes of the text that a cell spells. -/
def textBytes : Cell → List UInt8
  | null => []
  | int n => Text.toUtf8 (Value.intText n)
  | real x => Text.toUtf8 (realText x)
  | text bytes | blob bytes => bytes

/-! ## Texts as numbers -/

/-- A blank that may stand before and after a number. -/
def isNumberBlank (c : Char) : Bool := c = ' ' || ('\t' ≤ c && c ≤ '\r')

/-- An integer, if it has 64 bits. -/
def ofInt? (n : Int) : Option Cell :=
  if Int64.minValue.toInt ≤ n ∧ n ≤ Int64.maxValue.toInt then some (int (Int64.ofInt n)) else none

/-- The number that is spelled without sign and blanks. Digits alone are an integer, if it
has 64 bits. -/
def ofUnsigned? (negative : Bool) (s : List Char) : Option Cell := do
  let numeral ← Decimal.numeral? s
  let x := numeral.scaledValue
  let n : Int := Decimal.natOfDigits s
  let whole := if s.all Char.isDigit then ofInt? (if negative then -n else n) else none
  return whole.getD (real (if negative then -x else x))

/-- The number that a text spells, with blanks around it or without. -/
def ofNumberText? (bytes : List UInt8) : Option Cell :=
  let s := bytes.map fun b => Char.ofNat b.toNat
  let s := ((s.dropWhile isNumberBlank).reverse.dropWhile isNumberBlank).reverse
  let (negative, s) := Decimal.splitSign s
  ofUnsigned? negative s

end Cell

end DottedQuery.Store
