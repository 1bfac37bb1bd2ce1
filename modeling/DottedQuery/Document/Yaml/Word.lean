/-
# DottedQuery.Document.Yaml.Word -- what a scalar of YAML means

A scalar is a word, perhaps with a tag. Without a tag a plain word is null, a truth value,
an integer, a float or else text, tried in this order; a word in quotes is text. The tags
for these types demand their own reading; any other tag of the standard makes the word
text; a tag of the document's own is ignored here.
-/
import DottedQuery.Decimal.Reading
import DottedQuery.Document.Error
import DottedQuery.Text.Hex

namespace DottedQuery.Document.Yaml

/-! ## Plain words -/

/-- The words for null; the empty word means null only where no tag asks for it. -/
def isNullWord (s : String) : Bool := ["null", "Null", "NULL", "~"].contains s

/-- The words for truth values. -/
def truthValue? (s : String) : Option Bool :=
  if ["true", "True", "TRUE"].contains s then some true
  else if ["false", "False", "FALSE"].contains s then some false
  else none

/-- Digits of a base that is a power of two, none if there are none or others. -/
def basedNumber? (base : Nat) (digits : List Char) : Option Nat :=
  if digits.isEmpty then none
  else
    digits.foldl
      (fun total c => do
        let digit ← Text.hexValue? c
        if digit < base then return (← total) * base + digit else none)
      (some 0)

/-- A number without a sign: decimal, or after `0x`, `0o` or `0b` in that base. A decimal
number of several digits does not begin with zero. -/
def magnitude? : List Char → Option Nat
  | '0' :: 'x' :: digits => basedNumber? 16 digits
  | '0' :: 'o' :: digits => basedNumber? 8 digits
  | '0' :: 'b' :: digits => basedNumber? 2 digits
  | digits =>
    if digits.isEmpty || !digits.all Char.isDigit then none
    else if digits.head? = some '0' ∧ digits.length ≠ 1 then none
    else some (Decimal.natOfDigits digits)

/-- An integer with an optional sign, if 128 bits hold it. -/
def integer? (s : String) : Option Int :=
  let (negative, digits) := Decimal.splitSign s.toList
  match magnitude? digits with
  | none => none
  | some n =>
    if negative then if n ≤ Nat.pow 2 127 then some (-(n : Int)) else none
    else if n < Nat.pow 2 128 then some n
    else none

/-- Decimal digits after an optional sign that are no number because they begin with a
zero. -/
def isPaddedDigits (s : String) : Bool :=
  let (_, digits) := Decimal.splitSign s.toList
  digits.head? = some '0' && digits.length ≠ 1 && digits.all Char.isDigit

/-- A float: a finite decimal number, or a word for infinity or not-a-number. -/
def float? (s : String) : Option Float :=
  if [".inf", ".Inf", ".INF", "+.inf", "+.Inf", "+.INF"].contains s then
    some (Float.ofBits 0x7FF0000000000000)
  else if ["-.inf", "-.Inf", "-.INF"].contains s then some (Float.ofBits 0xFFF0000000000000)
  else if [".nan", ".NaN", ".NAN"].contains s then some (Float.ofBits 0x7FF8000000000000)
  else
    (Decimal.number? s).bind fun x => if x.isFinite then some x else none

/-- What a plain word without a tag means. -/
def plainWord (s : String) : Scalar :=
  if s.isEmpty || isNullWord s then .null
  else
    match truthValue? s with
    | some b => .bool b
    | none =>
      match integer? s with
      | some n => .int n
      | none =>
        if isPaddedDigits s then .text s
        else
          match float? s with
          | some x => .float x
          | none => .text s

/-! ## Tagged words -/

/-- The tags of the standard begin with this. -/
def standardTag (name : String) : String := "tag:yaml.org,2002:" ++ name

/-- A tag of the document's own. -/
def isOwnTag (tag : String) : Bool := tag.toList.head? = some '!'

/-- The reading that a tag demands, or the fault that the word is not of that kind. -/
def demanded (s expected : String) (read : Option Scalar) : Except Error Scalar :=
  match read with
  | some scalar => .ok scalar
  | none => .error (.wrongValue s expected)

/-- What a word means. -/
def word (tag : Option String) (plain : Bool) (s : String) : Except Error Scalar :=
  let untagged := if plain then plainWord s else .text s
  match tag with
  | none => .ok untagged
  | some tag =>
    if tag = standardTag "bool" then demanded s "a boolean" ((truthValue? s).map .bool)
    else if tag = standardTag "int" then demanded s "an integer" ((integer? s).map .int)
    else if tag = standardTag "float" then demanded s "a float" ((float? s).map .float)
    else if tag = standardTag "null" then
      demanded s "null" (if isNullWord s then some .null else none)
    else if isOwnTag tag then .ok untagged
    else .ok (.text s)

/-- Whether the word stands for the absence of an optional value. -/
def isAbsent (tag : Option String) (plain : Bool) (s : String) : Except Error Bool :=
  if !plain then .ok false
  else
    match tag with
    | none => .ok (s.isEmpty || isNullWord s)
    | some tag =>
      if tag = standardTag "null" then
        if isNullWord s then .ok true else .error (.wrongValue s "null")
      else .ok false

end DottedQuery.Document.Yaml
