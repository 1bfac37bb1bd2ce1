/-
# DottedQuery.Store.Function -- functions in expressions

A function takes cells to a cell, or tells why it has no value for them. Functions that leave
some of their operands alone are not among these.
-/
import DottedQuery.Store.Moment
import DottedQuery.Store.Operand
import DottedQuery.Store.Pattern

namespace DottedQuery.Store

namespace Function

/-! ## Numbers and parts of texts -/

/-- A number with so many digits after the point. -/
def rounded (cell : Cell) (places : Nat) : Cell :=
  match cell with
  | .null => .null
  | cell =>
    let x := cell.toReal
    if x.abs > 4503599627370496.0 then .real x
    else if places = 0 then
      .real (Float.ofInt (x + (if x < 0.0 then -0.5 else 0.5)).toInt64.toInt)
    else
      match (Decimal.Binary64.ofFloat x).magnitude with
      | .finite m q =>
        let size := if m = 0 then 0.0 else Decimal.roundedAt places m q
        .real (if x < 0.0 then -size else size)
      | _ => .real x

/-- A part of a text or a blob. -/
def substring (cell start : Cell) (length : Option Cell) : Cell :=
  match cell, start, length with
  | .null, _, _ | _, .null, _ | _, _, some .null | .blob [], _, _ => .null
  | cell, start, length =>
    let start := Directive.narrow start.toWhole
    let lengthIn (size : Nat) : Int :=
      (length.map fun length => Directive.narrow length.toWhole).getD (size + start.natAbs + 1)
    match cell with
    | .blob bytes => .blob (Cell.part bytes start (lengthIn bytes.length))
    | cell =>
      let units := cell.visibleUnits
      .text (Cell.part units start (lengthIn units.length)).flatten

/-- The text of a cell without characters at its ends. -/
def trimmed (atStart atEnd : Bool) (cell : Cell) (others : Option Cell) : Cell :=
  match cell, others with
  | .null, _ | _, some .null => .null
  | cell, others =>
    let others := (others.map (·.visibleUnits)).getD [[32]]
    let bytes := cell.textBytes
    let bytes := if atStart then Cell.withoutStart others bytes.length bytes else bytes
    let backwards := others.map List.reverse
    .text <|
      if atEnd then (Cell.withoutStart backwards bytes.length bytes.reverse).reverse else bytes

/-- The place of a text in another, or of a blob in another. -/
def found (cell part : Cell) : Cell :=
  match cell, part with
  | .null, _ | _, .null => .null
  | .blob bytes, .blob part => .ofCount (Cell.placeAfter (fun _ => true) part 0 bytes)
  | cell, part =>
    .ofCount (Cell.placeAfter (!Cell.isContinuation ·) part.textBytes 0 cell.textBytes)

/-- A text with one text in the place of another. -/
def substituted (cell old new : Cell) : Cell :=
  match cell, old, new with
  | .null, _, _ | _, .null, _ => .null
  | cell, old, new =>
    let bytes := cell.textBytes
    if old.textBytes.head?.all (· = 0) then .text bytes
    else
      match new with
      | .null => .null
      | new => .text (Cell.replaced old.textBytes new.textBytes bytes.length bytes)

/-- The name of a storage class. -/
def className : Cell → String
  | .null => "null"
  | .int _ => "integer"
  | .real _ => "real"
  | .text _ => "text"
  | .blob _ => "blob"

/-- What becomes of the text of a cell, unless it is null. -/
def mapText (f : List UInt8 → Cell) : Cell → Cell
  | .null => .null
  | cell => f cell.textBytes

/-- An ASCII letter in lower case as the byte of its upper case. -/
def upperByte (b : UInt8) : UInt8 := if 97 ≤ b && b ≤ 122 then b - 32 else b

/-- The size of a number. -/
def size : Cell → Worked Cell
  | .null => .ok .null
  | .int n =>
    match Cell.ofInt? n.toInt.natAbs with
    | some cell => .ok cell
    | none => complain "integer overflow"
  | cell =>
    let x := cell.toReal
    .ok (.real (if x < 0.0 then -x else x))

/-- Whether a number is above or below 0, or 0. -/
def sign (cell : Cell) : Cell :=
  match Affinity.numeric.compared cell with
  | .int n => .int (if n < 0 then -1 else if 0 < n then 1 else 0)
  | .real x => .int (if x < 0.0 then -1 else if 0.0 < x then 1 else 0)
  | _ => .null

/-! ## Further texts -/

/-- The characters with these numbers. What is no number of a character becomes U+FFFD. -/
def characters (cells : List Cell) : Cell :=
  .ofByteChars (cells.flatMap fun cell =>
    let n := cell.toWhole
    if n < 0 || 0x10FFFF < n then codeBytes 0xFFFD else codeBytes n.toNatClampNeg)

/-- Texts one after the other, with a text between them. Empty ones are left out. -/
def joined (separator : List UInt8) (cells : List Cell) : Cell :=
  .text (separator.intercalate ((cells.map Cell.textBytes).filter (!·.isEmpty)))

/-- The size of a cell in bytes. -/
def byteLength : Cell → Cell
  | .null => .null
  | cell => .ofCount cell.textBytes.length

/-- The bytes that pairs of digits spell, with some other characters among them. -/
def unhexed (others : List Char) : List Char → Option (List UInt8)
  | [] => some []
  | [c] => if others.contains c then some [] else none
  | c :: d :: rest =>
    match Text.hexValue? c, Text.hexValue? d with
    | some high, some low => do
      return UInt8.ofNat (high * 16 + low) :: (← unhexed others rest)
    | some _, none => none
    | none, _ => if others.contains c then unhexed others (d :: rest) else none

/-- The blob that digits spell, with some other characters among them. -/
def unhex (cell : Cell) (others : Option Cell) : Cell :=
  match cell, others with
  | .null, _ | _, some .null => .null
  | cell, others =>
    let others := (others.map Cell.chars).getD []
    ((unhexed others cell.visibleChars).map Cell.blob).getD .null

/-- How many bytes a cell may have. -/
def sizeLimit : Int := 1000000000

/-- A blob of so many zeros. -/
def zeros (cell : Cell) : Worked Cell :=
  let n := cell.toWhole.toInt
  if sizeLimit < n then complain "string or blob too big"
  else .ok (.blob (List.replicate n.toNat 0))

/-- The group of consonants that a letter belongs to, or 0. -/
def soundGroup (c : Char) : Nat :=
  let groups := ["bfpv", "cgjkqsxz", "dt", "l", "mn", "r"]
  ((groups.findIdx? (·.toList.contains c.toLower)).map (· + 1)).getD 0

/-- The groups of the letters, each once in a row. -/
def soundGroups : Nat → List Char → List Nat
  | _, [] => []
  | prior, c :: rest =>
    let group := soundGroup c
    if group ≠ 0 && group ≠ prior then group :: soundGroups group rest
    else soundGroups (if group = 0 then 0 else prior) rest

/-- How a word sounds: its first letter and three digits. -/
def sound (cell : Cell) : Cell :=
  match cell.visibleByteChars.dropWhile (!·.isAlpha) with
  | [] => .ofAscii "?000"
  | c :: rest =>
    let digits := (soundGroups (soundGroup c) rest).take 3 ++ [0, 0, 0]
    .ofByteChars (c.toUpper :: (digits.take 3).map fun n => Char.ofNat (48 + n))

/-! ## Patterns -/

/-- How many bytes a pattern may have. -/
def patternLimit : Nat := 50000

/-- Whether a text matches a pattern, in which one character may make others stand for
themselves. -/
def like (pattern cell : Cell) (escape : Option Cell) : Worked Cell :=
  if patternLimit < pattern.textBytes.length then complain "LIKE or GLOB pattern too complex"
  else
    match escape with
    | none => .ok (Cell.matchesPattern (Cell.likeStyle none) pattern cell)
    | some .null => .ok .null
    | some escape =>
      match escape.visibleChars with
      | [c] => .ok (Cell.matchesPattern (Cell.likeStyle (some c)) pattern cell)
      | _ => complain "ESCAPE expression must be a single character"

/-- Whether a text matches a pattern of file names. -/
def glob (pattern cell : Cell) : Worked Cell :=
  if patternLimit < pattern.textBytes.length then complain "LIKE or GLOB pattern too complex"
  else .ok (Cell.matchesPattern Cell.globStyle pattern cell)

/-! ## Functions by name -/

/-- The value of a function of texts and numbers of this name, if there is one. -/
def plain? (name : String) (cells : List Cell) : Option Cell :=
  match name, cells with
  | "char", cells => some (characters cells)
  | "concat", cells => some (joined [] cells)
  | "concat_ws", .null :: _ => some .null
  | "concat_ws", separator :: cells => some (joined separator.textBytes cells)
  | "format", pattern :: cells | "printf", pattern :: cells => some (pattern.filledIn cells)
  | "format", [] | "printf", [] => some .null
  | "hex", [a] => some (.ofAscii (Text.asciiUpper (Text.hexBytes a.textBytes)))
  | "instr", [a, part] => some (found a part)
  | "length", [a] => some a.length
  | "lower", [a] => some (mapText (fun bytes => .text (bytes.map Cell.lowerByte)) a)
  | "upper", [a] => some (mapText (fun bytes => .text (bytes.map upperByte)) a)
  | "octet_length", [a] => some (byteLength a)
  | "quote", [a] => some a.literal
  | "replace", [a, old, new] => some (substituted a old new)
  | "round", [a] => some (rounded a 0)
  | "round", [_, .null] => some .null
  | "round", [a, places] => some (rounded a (min places.toWhole.toNatClampNeg 30))
  | "sign", [a] => some (sign a)
  | "soundex", [a] => some (sound a)
  | "substr", [a, start] | "substring", [a, start] => some (substring a start none)
  | "substr", [a, start, length] | "substring", [a, start, length] =>
    some (substring a start (some length))
  | "trim", a :: rest => some (trimmed true true a rest.head?)
  | "ltrim", a :: rest => some (trimmed true false a rest.head?)
  | "rtrim", a :: rest => some (trimmed false true a rest.head?)
  | "typeof", [a] => some (.ofAscii (className a))
  | "unhex", a :: rest => some (unhex a rest.head?)
  | "unicode", [a] =>
    let number (unit : List UInt8) : Cell := .int (Int32.ofNat (Cell.unitNumber unit)).toInt64
    some ((a.visibleUnits.head?.map number).getD .null)
  | _, _ => none

/-- Functions of moments. -/
def momentFunctions : List String :=
  ["date", "datetime", "julianday", "strftime", "time", "timediff", "unixepoch"]

/-- The value of a function of this name, in lower case. -/
def call (name : String) (operands : List Operand) : Worked MarkedCell :=
  let cells := operands.map (·.cell)
  let known (cell : Worked Cell) : Worked MarkedCell := cell.map (⟨·, false⟩)
  match name, operands with
  | "abs", [a] => known (size a.cell)
  | "glob", [pattern, a] => known (glob pattern.cell a.cell)
  | "like", [pattern, a] => known (like pattern.cell a.cell none)
  | "like", [pattern, a, escape] => known (like pattern.cell a.cell (some escape.cell))
  | "likely", [a] | "unlikely", [a] | "likelihood", [a, _] => .ok a.marked
  | "subtype", [a] => known (.ok (.int (if a.isJson then 74 else 0)))
  | "max", _ => known (.ok (Operand.extreme true operands))
  | "min", _ => known (.ok (Operand.extreme false operands))
  | "nullif", [a, b] =>
    let m : Manner := { collation := (a.collation <|> b.collation).getD .binary }
    .ok (if Operand.same m a b then ⟨.null, false⟩ else a.marked)
  | "zeroblob", [a] => known (zeros a.cell)
  | name, operands =>
    if "json".isPrefixOf name || "->".isPrefixOf name then
      JsonTree.call name (operands.map Operand.marked)
    else if momentFunctions.contains name then known (Moment.call name cells)
    else known (.ok ((plain? name cells).getD .null))

end Function

end DottedQuery.Store
