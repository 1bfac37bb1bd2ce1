/-
# DottedQuery.Document.Error -- what can be wrong with a document

A document may stop being well formed, or it may be well formed and not have the structure
that is asked for. Of the second kind most faults have a clause that names what was found
and what was expected; `clause?` writes it. The wording differs between the formats only in
the word for null and in the digits of a number.
-/
import DottedQuery.Decimal.Layout
import DottedQuery.Document.Node
import DottedQuery.Text.Quoted

namespace DottedQuery.Document

/-- What stands where something else is expected. -/
inductive Found where
  | null
  | bool (b : Bool)
  | int (n : Int)
  | float (x : Float)
  | text (s : String)
  | list
  | record
  /-- A node with a tag of its own, where the tag would choose a variant. -/
  | variant
  deriving Repr

/-- A fault of a document. -/
inductive Error where
  /-- The text is not well formed. -/
  | malformed
  /-- The structure is wrong in a way that has no clause. -/
  | misshapen
  | missingField (name : String)
  | duplicateField (name : String)
  | unknownField (name : String) (known : List String)
  | unknownVariant (name : String) (known : List String)
  | wrongType (found : Found) (expected : String)
  /-- A text that its tag declares to be something it is not. -/
  | wrongValue (text expected : String)
  | outOfRange (n : Int)
  deriving Repr

/-! ## Wording -/

/-- A name between backquotes. -/
def ticked (s : String) : String := "`" ++ s ++ "`"

/-- The names that are known, as the end of a sentence. -/
def expectedNames : List String → String
  | [] => "there are no fields"
  | [a] => "expected " ++ ticked a
  | [a, b] => "expected " ++ ticked a ++ " or " ++ ticked b
  | names => "expected one of " ++ String.intercalate ", " (names.map ticked)

/-- The width of an integer that does not fit 64 bits. A positive one has a sign bit in TOML
where that leaves room for it. -/
def Format.widthMark (format : Format) (n : Int) : String :=
  if n < Int64.minValue.toInt then " as i128"
  else if n < UInt64.size then ""
  else if format = toml ∧ n < Nat.pow 2 127 then " as i128"
  else " as u128"

/-- An integer, with the width it needs when 64 bits are not enough. -/
def Format.integerText (format : Format) (n : Int) : String :=
  "integer " ++ ticked (toString n) ++ format.widthMark n

/-- Digits of a float in a message: never an exponent, always a fraction. -/
def spelledOut : Decimal.Layout := { Decimal.plain with keepsFraction := true }

/-- The digits of a float in a message about a document of the format. -/
def Format.floatLayout : Format → Decimal.Layout
  | json => Decimal.json
  | yaml | toml => spelledOut

/-- The word for null in a message about a document of the format. -/
def Format.nullWord : Format → String
  | json => "null"
  | yaml | toml => "unit value"

/-- What was found, in words. -/
def Found.describe (format : Format) : Found → String
  | null => format.nullWord
  | bool b => "boolean " ++ ticked (if b then "true" else "false")
  | int n => format.integerText n
  | float x => "floating point " ++ ticked (format.floatLayout.render x)
  | text s => "string " ++ Text.quoted s
  | list => "sequence"
  | record => "map"
  | variant => "enum"

/-- The clause that names the fault, where there is one. -/
def Error.clause? (format : Format) : Error → Option String
  | malformed | misshapen => none
  | missingField name => some ("missing field " ++ ticked name)
  | duplicateField name => some ("duplicate field " ++ ticked name)
  | unknownField name known =>
    some ("unknown field " ++ ticked name ++ ", " ++ expectedNames known)
  | unknownVariant name known =>
    some ("unknown variant " ++ ticked name ++ ", " ++ expectedNames known)
  | wrongType found expected =>
    some ("invalid type: " ++ found.describe format ++ ", expected " ++ expected)
  | wrongValue text expected =>
    some ("invalid value: string " ++ Text.quoted text ++ ", expected " ++ expected)
  | outOfRange n => some ("integer " ++ toString n ++ " is out of range")

/-- The fault in words: its clause, or that there is none. -/
def Error.describe (format : Format) (e : Error) : String :=
  (e.clause? format).getD
    (match e with
      | malformed => "the text is not well formed"
      | _ => "the structure is not the expected one")

end DottedQuery.Document
