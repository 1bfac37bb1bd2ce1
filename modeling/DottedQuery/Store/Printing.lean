/-
# DottedQuery.Store.Printing -- texts with values filled in

A pattern is a text with directives in it, each begun by a percent sign. A directive says what
kind of value is written in its place, how wide it is at least, and how precisely it is
written; it takes its values from a list, one after the other, and where the list is at its
end it writes a zero or nothing. Widths count bytes unless a directive asks for characters, so
everything here is written in bytes.
-/
import DottedQuery.Decimal.Binary64
import DottedQuery.Decimal.Rounded
import DottedQuery.Store.Arithmetic

namespace DottedQuery.Store

/-! ## Directives -/

/-- What stands between the percent sign and the letter of a directive. -/
structure Directive where
  /-- Whether what is written stands at the left of its field. -/
  left : Bool := false
  /-- What is written before a number that is not negative. -/
  sign : Option Char := none
  /-- Whether a number tells its base, or keeps its point. -/
  marked : Bool := false
  /-- Whether more digits are written, and characters are counted. -/
  precise : Bool := false
  zeros : Bool := false
  commas : Bool := false
  width : Nat := 0
  precision : Option Nat := none

/-- The values that are still to be written. -/
abbrev Supply := List Cell

namespace Directive

/-- Takes note of a flag, if a character is one. -/
def flagged? (d : Directive) (c : Char) : Option Directive :=
  match c with
  | '-' => some { d with left := true }
  | '+' => some { d with sign := some '+' }
  | ' ' => some { d with sign := some ' ' }
  | '#' => some { d with marked := true }
  | '!' => some { d with precise := true }
  | '0' => some { d with zeros := true }
  | ',' => some { d with commas := true }
  | _ => none

/-- Takes flags. -/
def readFlags (d : Directive) : List Char → Directive × List Char
  | [] => (d, [])
  | c :: rest =>
    match d.flagged? c with
    | some d => readFlags d rest
    | none => (d, c :: rest)

/-- The 32 bits of an integer, in two's complement. -/
def narrow (n : Int64) : Int := n.toInt32.toInt

/-- The integer that is written next. -/
def nextInt (supply : Supply) : Int64 × Supply :=
  match supply with
  | cell :: rest => (cell.toWhole, rest)
  | [] => (0, [])

/-- A number of digits in a pattern, of which 31 bits count. -/
def count (digits : List Char) : Nat := Decimal.natOfDigits digits % Nat.pow 2 31

/-- Takes the width. A star takes it from the values. -/
def readWidth (d : Directive) (supply : Supply) (s : List Char) :
    Directive × Supply × List Char :=
  match s with
  | '*' :: rest =>
    let (n, supply) := nextInt supply
    let n := narrow n
    if n = -2147483648 then ({ d with left := true, width := 0 }, supply, rest)
    else ({ d with left := d.left || n < 0, width := n.natAbs }, supply, rest)
  | s =>
    ({ d with width := count (s.takeWhile Char.isDigit) }, supply, s.dropWhile Char.isDigit)

/-- Takes the precision, if there is one. A star takes it from the values. -/
def readPrecision (d : Directive) (supply : Supply) (s : List Char) :
    Directive × Supply × List Char :=
  match s with
  | '.' :: '*' :: rest =>
    let (n, supply) := nextInt supply
    let n := narrow n
    let precision := if n = -2147483648 then none else some n.natAbs
    ({ d with precision }, supply, rest)
  | '.' :: rest =>
    let precision := some (count (rest.takeWhile Char.isDigit))
    ({ d with precision }, supply, rest.dropWhile Char.isDigit)
  | s => (d, supply, s)

/-- Passes the letters that tell the size of an integer. -/
def passSize : List Char → List Char
  | 'l' :: 'l' :: rest => rest
  | 'l' :: rest => rest
  | s => s

/-- Takes what stands before the letter of a directive. -/
def read (supply : Supply) (s : List Char) : Directive × Supply × List Char :=
  let (d, s) := readFlags {} s
  let (d, supply, s) := d.readWidth supply s
  let (d, supply, s) := d.readPrecision supply s
  (d, supply, passSize s)

/-! ## Integers -/

/-- Digits with a comma after every third, counted from the right. -/
def grouped (digits : List Char) : List Char :=
  let reversed := digits.reverse.zipIdx.flatMap fun (c, i) =>
    if 0 < i && i % 3 = 0 then [',', c] else [c]
  reversed.reverse

/-- Digits with zeros before them, up to the precision. -/
def padded (d : Directive) (signed : Bool) (digits : List Char) : List Char :=
  let asked := d.precision.getD 0
  let room := d.width - (if signed then 1 else 0)
  let length := if d.zeros then max asked room else asked
  List.replicate (length - digits.length) '0' ++ digits

/-- The integer `n` with a sign or without. -/
def decimal (d : Directive) (sign : Option Char) (n : Nat) (suffix : List Char) : List Char :=
  let digits := d.padded sign.isSome (Nat.toDigits 10 n ++ suffix)
  sign.toList ++ (if d.commas && suffix.isEmpty then grouped digits else digits)

/-- The sign of an integer or a double. -/
def signOf (d : Directive) (negative : Bool) : Option Char :=
  if negative then some '-' else d.sign

/-- The ending of an ordinal number. -/
def ordinalEnding (n : Nat) : List Char :=
  if n / 10 % 10 = 1 then ['t', 'h']
  else
    match n % 10 with
    | 1 => ['s', 't']
    | 2 => ['n', 'd']
    | 3 => ['r', 'd']
    | _ => ['t', 'h']

/-- The bits of an integer in a base, with a mark of the base or without. -/
def based (d : Directive) (base : Nat) (upper : Bool) (mark : List Char) (n : Int64) :
    List Char :=
  let bits := n.toUInt64.toNat
  let digits := Nat.toDigits base bits
  let digits := d.padded false (if upper then digits.map Char.toUpper else digits)
  (if d.marked && bits ≠ 0 then mark else []) ++ digits

/-! ## Doubles -/

/-- How a double is written. -/
inductive NumberStyle where
  | positional
  | exponential
  /-- One of the others, by the size of the number. -/
  | general
  deriving DecidableEq, Repr

/-- The digits before the point: at least a zero. -/
def wholeDigits (commas : Bool) (digits : List Char) (point : Int) : List Char :=
  if point ≤ 0 then ['0']
  else
    let whole := digits.take point.toNat
    let whole := whole ++ List.replicate (point.toNat - whole.length) '0'
    if commas then grouped whole else whole

/-- So many digits after the point, or fewer where there are no others than zeros. -/
def knownFraction (places : Nat) (digits : List Char) (point : Int) : List Char :=
  (List.replicate (min (-point).toNat places) '0' ++ digits.drop point.toNat).take places

/-- So many digits after the point. -/
def fractionDigits (places : Nat) (digits : List Char) (point : Int) : List Char :=
  let known := knownFraction places digits point
  known ++ List.replicate (places - known.length) '0'

/-- An exponent of at least two digits. -/
def exponentText (letter : Char) (power : Int) : List Char :=
  let digits := Nat.toDigits 10 power.natAbs
  letter :: (if power < 0 then '-' else '+') :: List.replicate (2 - digits.length) '0' ++ digits

/-- A fraction without zeros at its end, and without the point if nothing is left, unless more
digits are asked for. -/
def shortFraction (precise : Bool) (fraction : List Char) : List Char :=
  let kept := (fraction.reverse.dropWhile (· = '0')).reverse
  if kept.isEmpty then (if precise then ['.', '0'] else []) else '.' :: kept

/-- Digits around the point in a notation. -/
def laidOut (d : Directive) (way : NumberStyle) (letter : Char) (precision : Nat)
    (p : Decimal.Positioned) : List Char :=
  let power := p.point - 1
  let precision := if way = .general then precision - 1 else precision
  let exponential : Bool :=
    match way with
    | .positional => false
    | .exponential => true
    | .general => power < -4 || precision < power
  let places := if way = .general && !exponential then (precision - power).toNat else precision
  let point := if exponential then 1 else p.point
  let whole := wholeDigits d.commas p.digits point
  let shortens : Bool := if way = .general then !d.marked else d.precise
  let fraction :=
    if shortens then knownFraction places p.digits point
    else fractionDigits places p.digits point
  let tail :=
    if shortens then (if places = 0 && !d.precise then [] else shortFraction d.precise fraction)
    else if 0 < places || d.marked || d.precise then '.' :: fraction
    else []
  whole ++ tail ++ (if exponential then exponentText letter power else [])

/-- A double with its sign; zeros between the two fill the field. -/
def signedDouble (d : Directive) (sign : Option Char) (digits : List Char) : List Char :=
  let length := sign.toList.length + digits.length
  let zeros := if d.zeros && !d.left then List.replicate (d.width - length) '0' else []
  sign.toList ++ zeros ++ digits

/-- How many digits after the point can be asked for. -/
def precisionLimit : Nat := 100000000

/-- A double. Infinity has no digits, but where zeros are asked for it is a nine with very many
of them. -/
def double (d : Directive) (way : NumberStyle) (letter : Char) (x : Float) : List Char :=
  let asked := min (d.precision.getD 6) precisionLimit
  let precision := if way = .general then max asked 1 else asked
  let round : Int :=
    match way with
    | .positional => -precision
    | .exponential => precision + 1
    | .general => precision
  let parts := Decimal.Binary64.ofFloat x
  match parts.magnitude with
  | .nan => if d.zeros then ['n', 'u', 'l', 'l'] else ['N', 'a', 'N']
  | .infinite =>
    if d.zeros then
      d.signedDouble (d.signOf parts.negative) (d.laidOut way letter precision ⟨['9'], 1000⟩)
    else (d.signOf parts.negative).toList ++ ['I', 'n', 'f']
  | .finite m q =>
    let sign := d.signOf (parts.negative && m ≠ 0)
    let p := Decimal.Positioned.ofFinite round (if d.precise then 26 else 16) m q
    d.signedDouble sign (d.laidOut way letter precision p)

/-! ## Texts -/

/-- Whether a byte goes on with a character. -/
def goesOn (c : Char) : Bool := 0x80 ≤ c.toNat && c.toNat < 0xC0

/-- The first characters of a text in bytes. -/
def firstChars : Nat → List Char → List Char
  | 0, _ => []
  | _, [] => []
  | count + 1, c :: rest =>
    if 0xC0 ≤ c.toNat then
      c :: rest.takeWhile goesOn ++ firstChars count (rest.dropWhile goesOn)
    else c :: firstChars count rest

/-- The part of a text that the precision leaves. -/
def shortened (d : Directive) (s : List Char) : List Char :=
  match d.precision with
  | none => s
  | some count => if d.precise then firstChars count s else s.take count

/-- A text in which a quote is doubled. -/
def doubled (quote : Char) (s : List Char) : List Char :=
  s.flatMap fun c => if c = quote then [c, c] else [c]

/-- The text that is written next, if there is one. -/
def nextText (supply : Supply) : Option (List Char) × Supply :=
  match supply with
  | .null :: rest => (none, rest)
  | cell :: rest => (some cell.visibleByteChars, rest)
  | [] => (none, [])

/-- The first character of a text, as often as the precision says. -/
def repeated (d : Directive) (text : Option (List Char)) : List Char :=
  let one : List Char :=
    match text with
    | some (c :: rest) =>
      if 0xC0 ≤ c.toNat then c :: (rest.takeWhile goesOn).take 3 else [c]
    | _ => ['\x00']
  (List.replicate (max 1 (d.precision.getD 1)) one).flatten

/-! ## Fields -/

/-- What is written, with spaces up to the width. -/
def field (d : Directive) (countsChars : Bool) (s : List Char) : List Char :=
  let length := if countsChars then s.countP (!goesOn ·) else s.length
  let spaces := List.replicate (d.width - length) ' '
  if d.left then s ++ spaces else spaces ++ s

/-- What a directive with this letter writes, and the values that are left; nothing if there is
no such letter. -/
def written? (d : Directive) (letter : Char) (supply : Supply) : Option (List Char × Supply) :=
  let int (f : Int64 → List Char) : Option (List Char × Supply) :=
    let (n, supply) := nextInt supply
    some (d.field false (f n), supply)
  let real (way : NumberStyle) (letter : Char) : Option (List Char × Supply) :=
    let x := (supply.head?.map Cell.toReal).getD 0.0
    some (d.field false (d.double way letter x), supply.tail)
  let text (f : Option (List Char) → List Char) : Option (List Char × Supply) :=
    let (s, supply) := nextText supply
    some (d.field d.precise (f s), supply)
  let quoted (quote : Char) (missing : String) (closed : Bool) : Option (List Char × Supply) :=
    text fun
      | some s =>
        let s := doubled quote (d.shortened s)
        if closed then quote :: s ++ [quote] else s
      | none => d.shortened missing.toList
  match letter with
  | 'd' | 'i' => int fun n => d.decimal (d.signOf (n < 0)) n.toInt.natAbs []
  | 'u' => int fun n => d.decimal none n.toUInt64.toNat []
  | 'r' => int fun n =>
    d.decimal (d.signOf (n < 0)) n.toInt.natAbs (ordinalEnding n.toInt.natAbs)
  | 'o' => int (d.based 8 false ['0'])
  | 'x' => int (d.based 16 false ['0', 'x'])
  | 'p' => int (d.based 16 true ['0', 'x'])
  | 'X' => int (d.based 16 true ['0', 'X'])
  | 'f' => real .positional 'e'
  | 'e' | 'E' => real .exponential letter
  | 'g' => real .general 'e'
  | 'G' => real .general 'E'
  | 'c' =>
    let (s, supply) := nextText supply
    some (d.field true (d.repeated s), supply)
  | 's' | 'z' => text fun s => d.shortened (s.getD [])
  | 'q' => quoted '\'' "(NULL)" false
  | 'Q' => quoted '\'' "NULL" true
  | 'w' => quoted '"' "(NULL)" false
  | 'n' => some ([], supply)
  | '%' => some (d.field false ['%'], supply)
  | _ => none

end Directive

/-! ## Patterns -/

/-- How long a text may be. -/
def lengthLimit : Nat := 1000000000

/-- Whether a directive asks for more than a text may hold. The precision of doubles and of texts
does not make them longer than they are. -/
def Directive.isExcessive (d : Directive) (letter : Char) : Bool :=
  let isRepeating : Bool := ['d', 'i', 'u', 'r', 'o', 'x', 'X', 'p', 'c'].contains letter
  (letter ≠ 'n' && lengthLimit < d.width) || (isRepeating && d.precision.any (lengthLimit < ·))

/-- What a pattern writes piece by piece with values filled in, through so many directives. It
ends where a directive is not known; a percent sign at the very end stands for itself. Nothing
is written if it is too much. -/
def filledPieces? : Nat → Supply → List Char → Option (List (List Char))
  | 0, _, _ => some []
  | limit + 1, supply, pattern => do
    let plain := pattern.takeWhile (· ≠ '%')
    let start := if plain.isEmpty then [] else [plain]
    match pattern.dropWhile (· ≠ '%') with
    | [] => return start
    | [_] => return start ++ [['%']]
    | _ :: rest =>
      let (d, supply, rest) := Directive.read supply rest
      match rest with
      | [] => return start
      | letter :: rest =>
        let isKnown : Bool := "diuroxXpfeEgGcszqQwn%".toList.contains letter
        if isKnown && d.isExcessive letter then none
        else
          match d.written? letter supply with
          | some (written, supply) =>
            return start ++ written :: (← filledPieces? limit supply rest)
          | none => return start

/-- The text of a pattern with values filled in; null where nothing is written at all. -/
def Cell.filledIn (pattern : Cell) (values : Supply) : Cell :=
  match pattern with
  | .null => .null
  | pattern =>
    let s := pattern.visibleByteChars
    match filledPieces? (s.length + 1) values s with
    | none | some [] => .null
    | some pieces => .ofByteChars pieces.flatten

/-! ## Values as they are written in a statement -/

/-- A double that reads back as it is: with fifteen digits if they suffice. -/
def realLiteral (x : Float) : List Char :=
  let short := Directive.double { precise := true, zeros := true, precision := some 15 } .general 'e' x
  let back := ((Cell.ofNumberText? (short.map fun c => UInt8.ofNat c.toNat)).getD .null)
  let same : Bool :=
    match back with
    | .real y => x == y
    | .int n => Float.ofInt n.toInt == x
    | _ => false
  if same then short
  else Directive.double { precise := true, precision := some 20 } .exponential 'e' x

/-- A value as it is written in a statement. -/
def Cell.literal (cell : Cell) : Cell :=
  match cell with
  | .null => .ofAscii "NULL"
  | .int n => .ofAscii (Value.intText n)
  | .real x => .ofByteChars (realLiteral x)
  | .blob bytes => .ofAscii ("X'" ++ Text.asciiUpper (Text.hexBytes bytes) ++ "'")
  | .text _ => .ofByteChars ('\'' :: Directive.doubled '\'' cell.visibleByteChars ++ ['\''])

end DottedQuery.Store
