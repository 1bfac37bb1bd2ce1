/-
# DottedQuery.Document.Toml.Scalar -- strings, numbers and dates of TOML

Every reader takes the characters ahead and returns what it read with the rest, or nothing
if the text is not well formed. Numbers and dates are read as one unbroken word. A word has
to have the form of a number or a date; one that looks like an integer may still turn out to
have no value, and then only who asks for the value meets the fault.
-/
import DottedQuery.Decimal.Reading
import DottedQuery.Document.Node
import DottedQuery.Text.Hex

namespace DottedQuery.Document.Toml

/-! ## Blanks, comments and line ends -/

/-- A space or a tab. -/
def isBlank (c : Char) : Bool := c = ' ' || c = '\t'

/-- A control character that may stand nowhere in a line. -/
def isControl (c : Char) : Bool := (c.toNat < 0x20 && c ≠ '\t') || c.toNat = 0x7F

/-- Drops blanks. -/
def skipBlanks (s : List Char) : List Char := s.dropWhile isBlank

/-- Passes a line end. -/
def lineEnd? : List Char → Option (List Char)
  | '\n' :: rest => some rest
  | '\r' :: '\n' :: rest => some rest
  | _ => none

/-- Passes a comment, if one begins here. -/
def skipComment (s : List Char) : List Char :=
  if s.head? = some '#' then s.dropWhile (!isControl ·) else s

/-- Passes blanks, comments and line ends. -/
def skipLines : Nat → List Char → List Char
  | 0, s => s
  | fuel + 1, s =>
    let s := skipComment (skipBlanks s)
    match lineEnd? s with
    | some rest => skipLines fuel rest
    | none => s

/-! ## Strings -/

/-- What an escape of one letter stands for. -/
def escape? : Char → Option Char
  | 'b' => some '\x08'
  | 't' => some '\t'
  | 'n' => some '\n'
  | 'f' => some '\x0c'
  | 'r' => some '\r'
  | 'e' => some '\x1b'
  | '"' => some '"'
  | '\\' => some '\\'
  | _ => none

/-- How many digits a numeric escape has. -/
def escapeWidth? : Char → Option Nat
  | 'x' => some 2
  | 'u' => some 4
  | 'U' => some 8
  | _ => none

/-- An escape after its backslash. -/
def escapeAt? : List Char → Option (Char × List Char)
  | [] => none
  | letter :: rest =>
    match escapeWidth? letter with
    | none => (escape? letter).map (·, rest)
    | some width => do
      let digits := rest.take width
      if digits.length ≠ width then none
      let n ← Text.hexNumber? digits
      if n < 0xD800 ∨ (0xE000 ≤ n ∧ n < 0x110000) then return (Char.ofNat n, rest.drop width)
      else none

/-- A string on one line after its opening quote. Escapes belong to double quotes. -/
def lineString? (quote : Char) : Nat → List Char → Option (List Char × List Char)
  | 0, _ => none
  | _, [] => none
  | fuel + 1, c :: rest =>
    if c = quote then some ([], rest)
    else if isControl c then none
    else do
      let (c, rest) ← if quote = '"' ∧ c = '\\' then escapeAt? rest else some (c, rest)
      let (cs, rest) ← lineString? quote fuel rest
      return (c :: cs, rest)

/-- Passes blanks and line ends. -/
def skipBlankLines : Nat → List Char → List Char
  | 0, s => s
  | fuel + 1, s =>
    match lineEnd? (skipBlanks s) with
    | some rest => skipBlankLines fuel rest
    | none => skipBlanks s

/-- After a backslash at the end of a line: the text at the next character that is neither
blank nor line end. -/
def foldedLine? (s : List Char) : Option (List Char) :=
  (lineEnd? (skipBlanks s)).map fun rest => skipBlankLines (rest.length + 1) rest

/-- A string over several lines after its opening quotes. It ends at three quotes; up to
two more belong to the text. Line ends belong to it as they are. -/
def linesString? (quote : Char) : Nat → List Char → Option (List Char × List Char)
  | 0, _ => none
  | _, [] => none
  | fuel + 1, c :: rest =>
    let quotes := ((c :: rest).takeWhile (· = quote)).length
    if 3 ≤ quotes then
      if 5 < quotes then none
      else some (List.replicate (quotes - 3) quote, (c :: rest).drop quotes)
    else if quote = '"' ∧ c = '\\' then
      match foldedLine? rest with
      | some rest => linesString? quote fuel rest
      | none => do
        let (c, rest) ← escapeAt? rest
        let (cs, rest) ← linesString? quote fuel rest
        return (c :: cs, rest)
    else
      if isControl c && (lineEnd? (c :: rest)).isNone then none
      else do
        let (cs, rest) ← linesString? quote fuel rest
        return (c :: cs, rest)

/-- A string of any of the four kinds. A line end right after three quotes is dropped. -/
def string? (lines : Bool) (s : List Char) : Option (String × List Char) := do
  let quote ← s.head?
  if quote ≠ '"' ∧ quote ≠ '\'' then none
  let (text, rest) ←
    if lines ∧ s.take 3 = [quote, quote, quote] then
      let body := s.drop 3
      linesString? quote (s.length + 1) ((lineEnd? body).getD body)
    else lineString? quote (s.length + 1) s.tail
  return (String.ofList text, rest)

/-! ## Numbers -/

/-- A hexadecimal digit. -/
def isHexDigit (c : Char) : Bool := (Text.hexValue? c).isSome

/-- Whether every underscore of a number stands alone between digits. -/
def underscoresFit (isDigit : Char → Bool) (s : List Char) : Bool :=
  let parts := s.splitOn '_'
  !s.contains '_' ||
    (parts.all (!·.isEmpty) && parts.tail.all (·.head?.any isDigit) &&
      parts.dropLast.all (·.getLast?.any isDigit))

/-- A number without its underscores. -/
def withoutUnderscores (s : List Char) : List Char := s.filter (· ≠ '_')

/-- The node of an integer: none of the wider types holds more than 128 bits. -/
def integerNode (n? : Option Int) : Node :=
  match n? with
  | some n =>
    if -(Nat.pow 2 127 : Int) ≤ n ∧ n < Nat.pow 2 128 then .scalar (.int n) else .broken
  | none => .broken

/-- The base that a letter after a zero chooses. -/
def base? : Char → Option Nat
  | 'x' => some 16
  | 'o' => some 8
  | 'b' => some 2
  | _ => none

/-- An integer in some base after its letter. No digits at all have no value. -/
def basedNode? (base : Nat) (s : List Char) : Option Node :=
  let digits := withoutUnderscores s
  if !underscoresFit isHexDigit s then none
  else if !digits.all fun c => (Text.hexValue? c).any (· < base) then none
  else if digits.isEmpty then some .broken
  else some (integerNode (some (digits.foldl (fun n c => n * base + (Text.hexValue? c).getD 0) 0)))

/-- A decimal integer with its sign; what comes after its first underscore only has to look
like digits of some base. -/
def decimalNode? (word : List Char) : Option Node :=
  let (negative, size) := Decimal.splitSign (withoutUnderscores word)
  let n : Int := Decimal.natOfDigits size
  if !underscoresFit isHexDigit word then none
  else if !size.all Char.isDigit then some .broken
  else some (integerNode (some (if negative then -n else n)))

/-- The node of a float: a number that is out of range has no value. -/
def floatNode (x : Float) : Node := if x.isInf then .broken else .scalar (.float x)

/-- A float with its sign: digits with a fraction, an exponent or both. Its whole part does
not begin with a zero, unless it is one zero. -/
def floatNode? (word : List Char) : Option Node := do
  let (negative, size) := Decimal.splitSign word
  let numeral ← Decimal.numeral? (withoutUnderscores size)
  let padded := size.head? = some '0' && numeral.whole.length != 1
  let bare := size.contains '.' && numeral.fraction.isEmpty
  if !underscoresFit Char.isDigit word || numeral.whole.isEmpty || padded || bare then none
  return floatNode (if negative then -numeral.value else numeral.value)

/-! ## Dates and times -/

/-- Exactly `width` decimal digits at the head of a text. -/
def fixedDigits? (width : Nat) (s : List Char) : Option (Nat × List Char) :=
  let digits := s.take width
  if digits.length = width ∧ digits.all Char.isDigit then
    some (Decimal.natOfDigits digits, s.drop width)
  else none

/-- One expected character. -/
def expect? (c : Char) (s : List Char) : Option (List Char) :=
  if s.head? = some c then some s.tail else none

/-- The days of a month. -/
def daysInMonth (year month : Nat) : Nat :=
  if month = 2 then
    if (year % 4 = 0 ∧ year % 100 ≠ 0) ∨ year % 400 = 0 then 29 else 28
  else if [4, 6, 9, 11].contains month then 30
  else 31

/-- A date, and what follows it. -/
def date? (s : List Char) : Option (String × List Char) := do
  let (year, rest) ← fixedDigits? 4 s
  let (month, rest) ← fixedDigits? 2 (← expect? '-' rest)
  let (day, rest) ← fixedDigits? 2 (← expect? '-' rest)
  if month < 1 ∨ 12 < month ∨ day < 1 ∨ daysInMonth year month < day then none
  return (String.ofList (s.take 10), rest)

/-- A time with optional seconds and fraction, and what follows it. -/
def time? (s : List Char) : Option (String × List Char) := do
  let (hour, rest) ← fixedDigits? 2 s
  let (minute, rest) ← fixedDigits? 2 (← expect? ':' rest)
  if 23 < hour ∨ 59 < minute then none
  let start := String.ofList (s.take 5)
  match rest with
  | ':' :: rest => do
    let (second, after) ← fixedDigits? 2 rest
    if 60 < second then none
    let start := start ++ ":" ++ String.ofList (rest.take 2)
    match after with
    | '.' :: rest =>
      let digits := rest.takeWhile Char.isDigit
      if digits.isEmpty then none
      let kept := ((digits.take 9).reverse.dropWhile (· = '0')).reverse
      let fraction := if kept.isEmpty then "" else "." ++ String.ofList kept
      return (start ++ fraction, rest.dropWhile Char.isDigit)
    | after => return (start, after)
  | rest => return (start, rest)

/-- An offset from universal time, or none, to the end of the word. -/
def offset? (s : List Char) : Option String := do
  match s with
  | [] => return ""
  | ['z'] | ['Z'] => return "Z"
  | sign :: rest =>
    if sign ≠ '+' ∧ sign ≠ '-' then none
    let (hour, rest) ← fixedDigits? 2 rest
    let (minute, rest) ← fixedDigits? 2 (← expect? ':' rest)
    if 24 < hour ∨ 59 < minute ∨ !rest.isEmpty then none
    return String.ofList s

/-- A date, a time, or both with or without an offset. -/
def moment? (s : List Char) : Option String :=
  match date? s with
  | some (date, []) => some date
  | some (date, mark :: rest) => do
    if ! (mark = 'T' || mark = 't' || mark = ' ') then none
    let (time, rest) ← time? rest
    return date ++ "T" ++ time ++ (← offset? rest)
  | none => do
    let (time, rest) ← time? s
    if rest.isEmpty then return time else none

/-! ## Words -/

/-- A character that ends a word. -/
def endsWord (c : Char) : Bool := " \t\r\n,=[]\x7b\x7d#".toList.contains c

/-- Whether a blank at the head of a text is followed by a time. -/
def continuesWithTime (s : List Char) : Bool :=
  match s with
  | ' ' :: a :: b :: ':' :: _ => a.isDigit && b.isDigit
  | _ => false

/-- The word at the head of a text; one blank may stand between a date and a time. -/
def takeWord (s : List Char) : List Char × List Char :=
  let word := s.takeWhile (!endsWord ·)
  let rest := s.dropWhile (!endsWord ·)
  if (date? word).isSome && continuesWithTime rest then
    let time := rest.tail.takeWhile (!endsWord ·)
    (word ++ ' ' :: time, rest.tail.dropWhile (!endsWord ·))
  else (word, rest)

/-- A number or a date. What comes after its first digits tells which. -/
def numberNode? (word : List Char) : Option Node :=
  let size := (Decimal.splitSign word).2
  let rest := size.dropWhile Char.isDigit
  if rest.head? = some '-' || rest.head? = some ':' || rest.contains ' ' then
    (moment? word).map fun s => .scalar (.date s)
  else if rest.any ['.', 'e', 'E'].contains then floatNode? word
  else if size.isEmpty || (size.head? = some '0' && size.length != 1) then none
  else if rest.isEmpty || rest.head? = some '_' then decimalNode? word
  else none

/-- What a word means. A number in another base has no sign. -/
def wordNode? (word : List Char) : Option Node :=
  let (negative, size) := Decimal.splitSign word
  let infinity := Float.ofBits 0x7FF0000000000000
  if word = "true".toList then some (.scalar (.bool true))
  else if word = "false".toList then some (.scalar (.bool false))
  else if size = "inf".toList then
    some (.scalar (.float (if negative then -infinity else infinity)))
  else if size = "nan".toList then some (.scalar (.float (Float.ofBits 0x7FF8000000000000)))
  else
    match size with
    | '0' :: letter :: digits =>
      match base? letter with
      | some base => if size.length = word.length then basedNode? base digits else none
      | none => numberNode? word
    | _ => numberNode? word

end DottedQuery.Document.Toml
