/-
# DottedQuery.Document.Json -- reading JSON

A JSON text is read from left to right into a tree. Every reading function returns what it
read and the rest of the text, or no rest once the text has gone wrong. Numbers written
without fraction and exponent are integers as far as 64 bits hold them; every other number
is a double.
-/
import DottedQuery.Decimal.Reading
import DottedQuery.Document.Node
import DottedQuery.Text.Hex

namespace DottedQuery.Document.Json

/-! ## Strings -/

/-- What a one-letter escape stands for. -/
def shortEscape? : Char → Option Char
  | '"' => some '"'
  | '\\' => some '\\'
  | '/' => some '/'
  | 'b' => some '\x08'
  | 'f' => some '\x0c'
  | 'n' => some '\n'
  | 'r' => some '\r'
  | 't' => some '\t'
  | _ => none

/-- Four hexadecimal digits and the rest. -/
def hexUnit? : List Char → Option (Nat × List Char)
  | a :: b :: c :: d :: rest => (Text.hexNumber? [a, b, c, d]).map (·, rest)
  | _ => none

/-- A numeric escape after its `u`. Code points beyond 16 bits are written as a high and a
low half; a half alone is an error. -/
def numericEscape? (s : List Char) : Option (Char × List Char) := do
  let (first, rest) ← hexUnit? s
  if first < 0xD800 ∨ 0xE000 ≤ first then return (Char.ofNat first, rest)
  else if 0xDC00 ≤ first then none
  else
    match rest with
    | '\\' :: 'u' :: rest =>
      let (second, rest) ← hexUnit? rest
      if 0xDC00 ≤ second ∧ second < 0xE000 then
        return (Char.ofNat (0x10000 + (first - 0xD800) * 0x400 + (second - 0xDC00)), rest)
      else none
    | _ => none

/-- The characters of a string up to its closing quote, and the rest. Control characters
have to be escaped. -/
def stringBody? : Nat → List Char → Option (List Char × List Char)
  | 0, _ => none
  | _, [] => none
  | fuel + 1, c :: rest =>
    if c = '"' then some ([], rest)
    else if c = '\\' then
      match rest with
      | [] => none
      | e :: rest => do
        let (c, rest) ←
          if e = 'u' then numericEscape? rest else (shortEscape? e).map (·, rest)
        let (cs, rest) ← stringBody? fuel rest
        return (c :: cs, rest)
    else if c.toNat < 0x20 then none
    else do
      let (cs, rest) ← stringBody? fuel rest
      return (c :: cs, rest)

/-- A string after its opening quote. -/
def string? (s : List Char) : Option (String × List Char) :=
  (stringBody? (s.length + 1) s).map fun (cs, rest) => (String.ofList cs, rest)

/-! ## Numbers -/

/-- A bound that 64-bit numbers stay below. -/
def wordBound : Nat := UInt64.size

/-- Appends decimal digits to a number as long as it stays below `wordBound`; also counts
the digits used. -/
def appendDigits (n : Nat) : List Char → Nat × Nat
  | [] => (n, 0)
  | c :: rest =>
    let next := n * 10 + (c.toNat - 48)
    if next < wordBound then
      let (total, used) := appendDigits next rest
      (total, used + 1)
    else (n, 0)

/-- A power of ten that a double can hold. -/
def powerOfTen (n : Nat) : Float := Float.ofScientific 1 false n

/-- A double times a power of ten, one rounding for each factor of at most `10 ^ 308`;
none if the result is out of range. -/
def scaled? : Nat → Float → Int → Option Float
  | 0, x, _ => some x
  | fuel + 1, x, e =>
    if e.natAbs ≤ 308 then
      if 0 ≤ e then
        let y := x * powerOfTen e.natAbs
        if y.isInf then none else some y
      else some (x / powerOfTen e.natAbs)
    else if x == 0.0 then some x
    else if 0 ≤ e then none
    else scaled? fuel (x / powerOfTen 308) (e + 308)

/-- The double that a numeral is read as: its leading digits that fit 64 bits, times a
power of ten. -/
def numeralValue? (n : Decimal.Numeral) : Option Float :=
  let (m, used) := appendDigits 0 n.whole
  let (m, usedFraction) := appendDigits m n.fraction
  scaled? 4 m.toUInt64.toFloat (n.exponent + (n.whole.length - used : Nat) - usedFraction)

/-- The value of an integer literal. What 64 bits do not hold, and minus zero, is a
double. -/
def integerValue? (negative : Bool) (digits : List Char) : Option Scalar :=
  let n := Decimal.natOfDigits digits
  if n < wordBound ∧ (negative → 0 < n ∧ n ≤ Nat.pow 2 63) then
    some (.int (if negative then -(n : Int) else n))
  else
    (numeralValue? ⟨digits, [], 0⟩).map fun x => .float (if negative then -x else x)

/-- The digits at the head of a text, if there are any. -/
def digits? (s : List Char) : Option (List Char × List Char) :=
  let digits := s.takeWhile Char.isDigit
  if digits.isEmpty then none else some (digits, s.dropWhile Char.isDigit)

/-- The digits after a point, none if there is no point. -/
def fraction? : List Char → Option (List Char × List Char)
  | '.' :: rest => digits? rest
  | s => some ([], s)

/-- The exponent, if one is written. -/
def exponent? (s : List Char) : Option (Option Int × List Char) :=
  match s with
  | c :: rest =>
    if c = 'e' ∨ c = 'E' then do
      let (negative, rest) := Decimal.splitSign rest
      let (digits, rest) ← digits? rest
      let n : Int := Decimal.natOfDigits digits
      return (some (if negative then -n else n), rest)
    else some (none, s)
  | [] => some (none, s)

/-- A number after its sign. A leading zero stands alone. -/
def number? (negative : Bool) (s : List Char) : Option (Scalar × List Char) := do
  let (whole, rest) ← digits? s
  if whole.head? = some '0' ∧ whole.length ≠ 1 then none
  let (fraction, rest) ← fraction? rest
  let (exponent, rest) ← exponent? rest
  if fraction.isEmpty ∧ exponent.isNone then
    return (← integerValue? negative whole, rest)
  else
    let x ← numeralValue? ⟨whole, fraction, exponent.getD 0⟩
    return (.float (if negative then -x else x), rest)

/-! ## Values -/

/-- The four characters that may stand between the parts of a text. -/
def isBlank (c : Char) : Bool := c = ' ' || c = '\n' || c = '\t' || c = '\r'

/-- Drops blanks. -/
def skipBlanks (s : List Char) : List Char := s.dropWhile isBlank

/-- The text after a word, if it begins with that word. -/
def afterWord? (word s : List Char) : Option (List Char) :=
  if word.isPrefixOf s then some (s.drop word.length) else none

/-- What has been read and where to read on; no place once the text has gone wrong. -/
abbrev Reading (α : Type) := α × Option (List Char)

/-- A scalar, or the fault in its place. -/
def ofScalar? (read : Option (Scalar × List Char)) : Reading Node :=
  match read with
  | some (s, rest) => (.scalar s, some rest)
  | none => (.broken, none)

/-- A scalar that begins with the given character. -/
def scalar (c : Char) (rest : List Char) : Reading Node :=
  ofScalar? <|
    if c = '"' then (string? rest).map fun (s, rest) => (.text s, rest)
    else if c = '-' then number? true rest
    else if c.isDigit then number? false (c :: rest)
    else if c = 'n' then (afterWord? "ull".toList rest).map (.null, ·)
    else if c = 't' then (afterWord? "rue".toList rest).map (.bool true, ·)
    else if c = 'f' then (afterWord? "alse".toList rest).map (.bool false, ·)
    else none

mutual

/-- A value. -/
def value : Nat → List Char → Reading Node
  | 0, _ => (.broken, none)
  | fuel + 1, s =>
    match skipBlanks s with
    | [] => (.broken, none)
    | '[' :: rest =>
      let (read, rest) := items fuel true rest
      (.list none read, rest)
    | '\x7b' :: rest =>
      let (read, rest) := members fuel true rest
      (.record none read, rest)
    | c :: rest => scalar c rest

/-- The items of an array up to its bracket; all but the first follow a comma. -/
def items : Nat → Bool → List Char → Reading (List Node)
  | 0, _, _ => ([.broken], none)
  | fuel + 1, first, s =>
    match first, skipBlanks s with
    | _, ']' :: rest => ([], some rest)
    | true, rest => itemAnd fuel rest
    | false, ',' :: rest =>
      match skipBlanks rest with
      | ']' :: _ => ([.broken], none)
      | rest => itemAnd fuel rest
    | false, _ => ([.broken], none)

/-- An item and those after it. -/
def itemAnd : Nat → List Char → Reading (List Node)
  | 0, _ => ([.broken], none)
  | fuel + 1, s =>
    match value fuel s with
    | (node, none) => ([node], none)
    | (node, some rest) =>
      let (others, rest) := items fuel false rest
      (node :: others, rest)

/-- The members of an object up to its brace; all but the first follow a comma. -/
def members : Nat → Bool → List Char → Reading (List (Node × Node))
  | 0, _, _ => ([(.broken, .broken)], none)
  | fuel + 1, first, s =>
    match first, skipBlanks s with
    | _, '\x7d' :: rest => ([], some rest)
    | true, '"' :: rest => memberAnd fuel rest
    | false, ',' :: rest =>
      match skipBlanks rest with
      | '"' :: rest => memberAnd fuel rest
      | _ => ([(.broken, .broken)], none)
    | _, _ => ([(.broken, .broken)], none)

/-- A member after the quote that opens its key, and those after it. -/
def memberAnd : Nat → List Char → Reading (List (Node × Node))
  | 0, _ => ([(.broken, .broken)], none)
  | fuel + 1, s =>
    match string? s with
    | none => ([(.broken, .broken)], none)
    | some (key, rest) =>
      let key := Node.scalar (.text key)
      match skipBlanks rest with
      | ':' :: rest =>
        match value fuel rest with
        | (node, none) => ([(key, node)], none)
        | (node, some rest) =>
          let (others, rest) := members fuel false rest
          ((key, node) :: others, rest)
      | _ => ([(key, .broken)], none)

end

/-- A whole text: one value and nothing after it but blanks. -/
def read (text : String) : Document :=
  let s := text.toList
  let (root, rest) := value (3 * s.length + 3) s
  { format := .json
    root
    overrun := !(rest.map fun rest => (skipBlanks rest).isEmpty).getD true }

end DottedQuery.Document.Json
