/-
# DottedQuery.Text.Blank -- white space and trimming

White space is the property `White_Space` of the Unicode character database.
-/
import DottedQuery.Text.Ranges

namespace DottedQuery.Text

/-- Characters with the property `White_Space`. -/
def blank : Ranges :=
  [(0x9, 0xD), (0x20, 0x20), (0x85, 0x85), (0xA0, 0xA0), (0x1680, 0x1680), (0x2000, 0x200A),
   (0x2028, 0x2029), (0x202F, 0x202F), (0x205F, 0x205F), (0x3000, 0x3000)]

/-- A white space character. -/
def isBlank (c : Char) : Bool := blank.holds c

/-- The characters without those at either end that satisfy the test. -/
def trimEnds (p : Char → Bool) (s : List Char) : List Char :=
  ((s.dropWhile p).reverse.dropWhile p).reverse

/-- The text without white space at either end. -/
def trimBlanks (s : String) : String := String.ofList (trimEnds isBlank s.toList)

end DottedQuery.Text
