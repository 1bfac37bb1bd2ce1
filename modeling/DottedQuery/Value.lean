/-
# DottedQuery.Value -- scalars of queries and of rows

One type serves both as the operand of a filter and as a cell of a result row. `typeName`
is the word for it in messages, `stringify` the text it is compared as with a text field,
and `display` the text shown beside a compiled statement.
-/
import DottedQuery.Decimal.Layout
import DottedQuery.Text.Quoted

namespace DottedQuery

/-- A scalar. -/
inductive Value where
  | null
  | bool (b : Bool)
  | int (n : Int64)
  | float (x : Float)
  | text (s : String)
  /-- Binary data, passed through untouched. -/
  | bytes (bytes : List UInt8)
  deriving Inhabited, Repr

namespace Value

/-- The word for the type of the value in messages. -/
def typeName : Value → String
  | null => "null"
  | bool _ => "boolean"
  | int _ => "integer"
  | float _ => "float"
  | text _ => "string"
  | bytes _ => "bytes"

/-- A truth value as a word. -/
def boolText (b : Bool) : String := if b then "true" else "false"

/-- A 64-bit integer in decimal digits. -/
def intText (n : Int64) : String := toString n.toInt

/-- The value as text: none for null and for bytes; a float keeps a fraction or an
exponent. -/
def stringify : Value → Option String
  | null | bytes _ => none
  | bool b => some (boolText b)
  | int n => some (intText n)
  | float x => some (Decimal.typed.render x)
  | text s => some s

/-- A byte as two upper case digits. -/
def byteText (b : UInt8) : List Char := (Text.hexByte b).map Char.toUpper

/-- The value on one line, without control characters. -/
def display : Value → String
  | null => "null"
  | bool b => boolText b
  | int n => intText n
  | float x => Decimal.plain.render x
  | text s => Text.quoted s
  | bytes bs => String.ofList (['x', '\''] ++ bs.flatMap byteText ++ ['\''])

end Value

end DottedQuery
