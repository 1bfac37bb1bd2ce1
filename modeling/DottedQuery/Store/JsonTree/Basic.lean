/-
# DottedQuery.Store.JsonTree.Basic -- JSON documents in cells

A document that functions work on keeps its numbers and texts as they are spelled, so that what
is not changed is written as it was read. There are spellings beyond the standard; they are
brought to it when a document is written. Texts are sequences of bytes, and every byte is
given as the character of its number.
-/
import DottedQuery.Store.Arithmetic

namespace DottedQuery.Store

/-! ## Documents -/

/-- How a text is spelled. -/
inductive TextForm where
  /-- Without escapes, and without characters that need one. -/
  | plain
  /-- With escapes of the standard. -/
  | escaped
  /-- With other escapes, or with characters that need one. -/
  | loose
  /-- As it is meant. -/
  | raw
  deriving DecidableEq, Repr

/-- A text with its spelling. -/
structure SpelledText where
  form : TextForm
  spelling : List Char
  deriving DecidableEq, Repr

/-- A document. -/
inductive JsonTree where
  | null
  | truth (value : Bool)
  | int (spelling : List Char)
  /-- An integer in base sixteen. -/
  | hex (spelling : List Char)
  | real (spelling : List Char)
  /-- A number without digits on one side of its point. -/
  | looseReal (spelling : List Char)
  | text (text : SpelledText)
  | array (items : List JsonTree)
  /-- Labels, and the values that belong to them in the same order. -/
  | object (labels : List SpelledText) (values : List JsonTree)

/-! ## Escapes -/

/-- A character of a text that needs no escape, or a single quote. -/
def needsNoEscape (c : Char) : Bool := 0x20 ≤ c.toNat && c ≠ '"' && c ≠ '\\'

/-- The letter that escapes a control character, if there is one. -/
def controlLetter? : Char → Option Char
  | '\x08' => some 'b'
  | '\t' => some 't'
  | '\n' => some 'n'
  | '\x0c' => some 'f'
  | '\r' => some 'r'
  | _ => none

/-- A control character with an escape. -/
def escapedControl (c : Char) : List Char :=
  match controlLetter? c with
  | some letter => ['\\', letter]
  | none => ['\\', 'u', '0', '0', Text.hexDigit (c.toNat / 16), Text.hexDigit (c.toNat % 16)]

/-- A text with escapes and quotes. -/
def quotedText (s : List Char) : List Char :=
  let body := s.flatMap fun c =>
    if needsNoEscape c then [c] else if c.toNat < 0x20 then escapedControl c else ['\\', c]
  '"' :: body ++ ['"']

/-- A text of a loose form in the spelling of the standard. -/
def standardSpelling : List Char → List Char
  | '\\' :: '\'' :: rest => '\'' :: standardSpelling rest
  | '\\' :: 'v' :: rest => "\\u000b".toList ++ standardSpelling rest
  | '\\' :: 'x' :: a :: b :: rest => "\\u00".toList ++ a :: b :: standardSpelling rest
  | '\\' :: '0' :: rest => "\\u0000".toList ++ standardSpelling rest
  | '\\' :: '\r' :: '\n' :: rest => standardSpelling rest
  | '\\' :: '\r' :: rest => standardSpelling rest
  | '\\' :: '\n' :: rest => standardSpelling rest
  | '\\' :: '\xe2' :: _ :: _ :: rest => standardSpelling rest
  | '\\' :: c :: rest => '\\' :: c :: standardSpelling rest
  | '"' :: rest => '\\' :: '"' :: standardSpelling rest
  | c :: rest =>
    if c.toNat < 0x20 then escapedControl c ++ standardSpelling rest
    else c :: standardSpelling rest
  | [] => []

/-- The bytes of a character with this number, which may also be one half of a pair. -/
def codeBytes (n : Nat) : List Char :=
  let tail (shift : Nat) : Char := Char.ofNat (0x80 + n / Nat.pow 64 shift % 64)
  if n < 0x80 then [Char.ofNat n]
  else if n < 0x800 then [Char.ofNat (0xC0 + n / 64), tail 0]
  else if n < 0x10000 then [Char.ofNat (0xE0 + n / 4096), tail 1, tail 0]
  else [Char.ofNat (0xF0 + n / 262144), tail 2, tail 1, tail 0]

/-- The number that four digits spell. -/
def fourDigits? (s : List Char) : Option Nat :=
  if (s.take 4).length = 4 then Text.hexNumber? (s.take 4) else none

/-- What the letter of an escape stands for. -/
def escapeMeaning? : Char → Option Char
  | 'b' => some '\x08'
  | 'f' => some '\x0c'
  | 'n' => some '\n'
  | 'r' => some '\r'
  | 't' => some '\t'
  | 'v' => some '\x0b'
  | '0' => some '\x00'
  | '\'' => some '\''
  | '"' => some '"'
  | '/' => some '/'
  | '\\' => some '\\'
  | _ => none

/-- The text that is meant by a spelling with escapes; at most so many steps are taken. -/
def unescaped : Nat → List Char → List Char
  | 0, _ => []
  | limit + 1, s =>
    match s with
    | '\\' :: 'u' :: rest =>
      match fourDigits? rest, rest.drop 4 with
      | some high, '\\' :: 'u' :: more =>
        match fourDigits? more with
        | some low =>
          if high / 1024 = 54 && low / 1024 = 55 then
            codeBytes (high % 1024 * 1024 + low % 1024 + 0x10000) ++ unescaped limit (more.drop 4)
          else codeBytes high ++ unescaped limit (rest.drop 4)
        | none => codeBytes high ++ unescaped limit (rest.drop 4)
      | some n, more => codeBytes n ++ unescaped limit more
      | none, more => unescaped limit more
    | '\\' :: 'x' :: a :: b :: rest =>
      codeBytes ((Text.hexNumber? [a, b]).getD 0) ++ unescaped limit rest
    | '\\' :: '\r' :: '\n' :: rest => unescaped limit rest
    | '\\' :: '\r' :: rest => unescaped limit rest
    | '\\' :: '\n' :: rest => unescaped limit rest
    | '\\' :: '\xe2' :: _ :: _ :: rest => unescaped limit rest
    | '\\' :: c :: rest => (escapeMeaning? c).toList ++ unescaped limit rest
    | c :: rest => c :: unescaped limit rest
    | [] => []

namespace SpelledText

/-- The text that is meant. -/
def meant (t : SpelledText) : List Char :=
  match t.form with
  | .plain | .raw => t.spelling
  | .escaped | .loose => unescaped t.spelling.length t.spelling

/-- The text in the spelling of the standard, with its quotes. -/
def written (t : SpelledText) : List Char :=
  match t.form with
  | .plain | .escaped => '"' :: t.spelling ++ ['"']
  | .loose => '"' :: standardSpelling t.spelling ++ ['"']
  | .raw => quotedText t.spelling

/-- Whether a label is a key; what follows a zero byte does not count. -/
def isLabel (label key : SpelledText) : Bool :=
  label.meant.takeWhile (· ≠ '\x00') = key.meant.takeWhile (· ≠ '\x00')

end SpelledText

namespace JsonTree

/-! ## Writing -/

/-- An integer in base sixteen as a decimal one. -/
def decimalOfHex (s : List Char) : List Char :=
  let (negative, digits) := Decimal.splitSign s
  let digits := (digits.drop 2).dropWhile (· = '0')
  let n := (Text.hexNumber? digits).getD 0
  let size := if 16 < digits.length then "9.0e999".toList else Nat.toDigits 10 n
  if negative then '-' :: size else size

/-- A number with a zero on each side of its point where no digit stands. -/
def roundedOut : List Char → List Char
  | '-' :: '.' :: rest => '-' :: '0' :: pointed ('.' :: rest)
  | '.' :: rest => '0' :: pointed ('.' :: rest)
  | s => pointed s
where
  /-- The digits with a zero after a point that no digit follows. -/
  pointed : List Char → List Char
    | '.' :: c :: rest =>
      if c.isDigit then '.' :: c :: pointed rest else '.' :: '0' :: c :: pointed rest
    | ['.'] => ['.', '0']
    | c :: rest => c :: pointed rest
    | [] => []

/-- Texts with commas between them. -/
def commaSeparated : List (List Char) → List Char
  | [] => []
  | [s] => s
  | s :: rest => s ++ ',' :: commaSeparated rest

mutual
/-- A document in the spelling of the standard, without blanks. -/
def written : JsonTree → List Char
  | null => "null".toList
  | truth true => "true".toList
  | truth false => "false".toList
  | int s | real s => s
  | hex s => decimalOfHex s
  | looseReal s => roundedOut s
  | text t => t.written
  | array items => '[' :: commaSeparated (writtenAll items) ++ [']']
  | object labels values =>
    let members := (labels.zip (writtenAll values)).map fun (label, s) => label.written ++ ':' :: s
    '{' :: commaSeparated members ++ ['}']

/-- Documents in the spelling of the standard. -/
def writtenAll : List JsonTree → List (List Char)
  | [] => []
  | t :: rest => written t :: writtenAll rest
end

/-- Entries on lines of their own, so deep. -/
def lines (indent : List Char) (depth : Nat) (opening closing : Char)
    (entries : List (List Char)) : List Char :=
  let margin (depth : Nat) : List Char := (List.replicate depth indent).flatten
  if entries.isEmpty then [opening, closing]
  else
    opening :: '\n' ::
      [',', '\n'].intercalate (entries.map (margin (depth + 1) ++ ·)) ++
      '\n' :: margin depth ++ [closing]

mutual
/-- A document over several lines. -/
def pretty (indent : List Char) (depth : Nat) : JsonTree → List Char
  | array items => lines indent depth '[' ']' (prettyAll indent (depth + 1) items)
  | object labels values =>
    lines indent depth '{' '}'
      ((labels.zip (prettyAll indent (depth + 1) values)).map fun (label, s) =>
        label.written ++ ':' :: ' ' :: s)
  | null => written null
  | truth b => written (truth b)
  | int s => written (int s)
  | hex s => written (hex s)
  | real s => written (real s)
  | looseReal s => written (looseReal s)
  | text t => written (text t)

/-- Documents over several lines. -/
def prettyAll (indent : List Char) (depth : Nat) : List JsonTree → List (List Char)
  | [] => []
  | t :: rest => pretty indent depth t :: prettyAll indent depth rest
end

/-! ## Cells -/

/-- The name of the kind of a document. -/
def kindName : JsonTree → String
  | null => "null"
  | truth true => "true"
  | truth false => "false"
  | int _ | hex _ => "integer"
  | real _ | looseReal _ => "real"
  | text _ => "text"
  | array _ => "array"
  | object .. => "object"

/-- A number as a double. -/
def realCell (s : List Char) : Cell :=
  let back := (Cell.ofNumberText? (s.map fun c => UInt8.ofNat c.toNat)).getD .null
  .real back.toReal

/-- An integer, if it has 64 bits, or else a double. -/
def intCell (s : List Char) : Cell :=
  let (negative, digits) := Decimal.splitSign s
  let n : Int := Decimal.natOfDigits digits
  (Cell.ofInt? (if negative then -n else n)).getD (realCell s)

/-- An integer in base sixteen: its bits are those of the cell. -/
def hexCell (s : List Char) : Cell :=
  let (negative, digits) := Decimal.splitSign s
  let n : Int := (Text.hexNumber? (digits.drop 2)).getD 0
  .int (Int64.ofInt (if negative then -n else n))

/-- The cell that a document is, if it is neither an array nor an object; those are written. -/
def toCell : JsonTree → Cell
  | null => .null
  | truth b => .int (if b then 1 else 0)
  | int s => intCell s
  | hex s => hexCell s
  | real s => realCell s
  | looseReal s => realCell s
  | text t => .ofByteChars t.meant
  | array items => .ofByteChars (written (array items))
  | object labels values => .ofByteChars (written (object labels values))

/-- Whether a document has parts. -/
def isCompound : JsonTree → Bool
  | array _ | object .. => true
  | _ => false

end JsonTree

end DottedQuery.Store
