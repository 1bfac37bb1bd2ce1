/-
# DottedQuery.Store.Token -- the tokens of SQL

A statement is a row of tokens: words, names in quotes, texts, numbers, blobs, parameters and
signs, with blanks and comments between them. A token keeps its characters as they are
written, what stands between it and the one before, and the place of its first byte, so that
a fault can be located and a stretch of the statement quoted. Characters that form no token
make an illegal one.
-/
import DottedQuery.Text.Hex
import DottedQuery.Text.LetterCase

namespace DottedQuery.Store

/-- What a token is by its form. -/
inductive TokenKind where
  | word
  /-- A name in double quotes, backquotes or brackets. -/
  | name
  /-- A text in single quotes. -/
  | text
  | number
  | blob
  | parameter
  | sign
  | illegal
  deriving DecidableEq, Repr

/-- A token of a statement. -/
structure Token where
  kind : TokenKind
  /-- Blanks and comments before it. -/
  gap : List Char
  /-- The token as it is written. -/
  spelling : List Char
  /-- How many bytes of the statement come before it. -/
  offset : Nat
  deriving DecidableEq, Repr

namespace Token

/-! ## Blanks and comments -/

/-- A blank. -/
def isSpace (c : Char) : Bool := [' ', '\t', '\n', '\x0c', '\r', '\uFEFF'].contains c

/-- How long a comment is that ends with a star and a slash, after its beginning. -/
def commentLength : List Char → Nat
  | '*' :: '/' :: _ => 2
  | _ :: rest => commentLength rest + 1
  | [] => 0

/-- How many characters at the head of a text are blanks or one comment. -/
def gapLength : List Char → Nat
  | '-' :: '-' :: rest => 2 + (rest.takeWhile (· ≠ '\n')).length
  | '/' :: '*' :: c :: rest => 2 + commentLength (c :: rest)
  | s => (s.takeWhile isSpace).length

/-! ## The length of a token -/

/-- A character of words. -/
def isWordChar (c : Char) : Bool := c.isAlphanum || c = '_' || c = '$' || 0x80 ≤ c.toNat

/-- How many characters at the head of a text satisfy a test. -/
def runLength (p : Char → Bool) (s : List Char) : Nat := (s.takeWhile p).length

/-- The length up to the closing quote and with it. A doubled quote does not close. -/
def quotedLength? (close : Char) : List Char → Option Nat
  | [] => none
  | [c] => if c = close then some 1 else none
  | c :: d :: rest =>
    if c ≠ close then (quotedLength? close (d :: rest)).map (· + 1)
    else if d = close then (quotedLength? close rest).map (· + 2)
    else some 1

/-- The length of digits with underscores among them. -/
def digitsLength (s : List Char) : Nat := runLength (fun c => c.isDigit || c = '_') s

/-- The length of an exponent: its letter, perhaps a sign, and digits. -/
def exponentLength : List Char → Nat
  | c :: rest =>
    let sign := if rest.head? = some '+' || rest.head? = some '-' then 1 else 0
    let digits := rest.drop sign
    if (c = 'e' || c = 'E') && digits.head?.any Char.isDigit then 1 + sign + digitsLength digits
    else 0
  | [] => 0

/-- The length of a number in decimal. -/
def decimalLength (s : List Char) : Nat :=
  let whole := digitsLength s
  let fraction :=
    match s.drop whole with
    | '.' :: rest => 1 + digitsLength rest
    | _ => 0
  whole + fraction + exponentLength (s.drop (whole + fraction))

/-- The length of a number. -/
def numberLength (s : List Char) : Nat :=
  let isHex (c : Char) : Bool := (Text.hexValue? c).isSome
  match s with
  | '0' :: mark :: digit :: rest =>
    if (mark = 'x' || mark = 'X') && isHex digit then
      3 + runLength (fun c => isHex c || c = '_') rest
    else decimalLength s
  | s => decimalLength s

/-- Signs of several characters, a longer one before its beginnings. -/
def longSigns : List String := ["->>", "->", "==", "<=", "<>", "<<", ">=", ">>", "!=", "||"]

/-- Signs of one character. -/
def shortSigns : List Char := "()=<>;+-*/%,&~|.".toList

/-- A token that lasts up to a closing quote. -/
def measureQuoted (kind : TokenKind) (close : Char) (s : List Char) : TokenKind × Nat :=
  match quotedLength? close s with
  | some n => (kind, n + 1)
  | none => (.illegal, s.length + 1)

/-- A blob after its letter and the opening quote: an even number of digits. -/
def measureBlob (s : List Char) : TokenKind × Nat :=
  let digits := runLength (fun c => (Text.hexValue? c).isSome) s
  let whole := runLength (· ≠ '\'') s
  let closed := if whole < s.length then 1 else 0
  if digits = whole && closed = 1 && digits % 2 = 0 then (.blob, digits + 3)
  else (.illegal, whole + 2 + closed)

/-- What the first token of a text is, and how long. No blank stands before it. -/
def measure : List Char → TokenKind × Nat
  | [] => (.illegal, 0)
  | c :: rest =>
    if c = '"' || c = '\x60' then measureQuoted .name c rest
    else if c = '\'' then measureQuoted .text c rest
    else if c = '[' then
      let inner := runLength (· ≠ ']') rest
      if inner < rest.length then (.name, inner + 2) else (.illegal, inner + 1)
    else if c.isDigit || (c = '.' && rest.head?.any Char.isDigit) then
      let number := numberLength (c :: rest)
      let more := runLength isWordChar ((c :: rest).drop number)
      (if more = 0 then .number else .illegal, number + more)
    else if (c = 'x' || c = 'X') && rest.head? = some '\'' then measureBlob rest.tail
    else if c = '?' then (.parameter, 1 + runLength Char.isDigit rest)
    else if ['$', '@', ':', '#'].contains c then
      let name := runLength isWordChar rest
      (if name = 0 then .illegal else .parameter, name + 1)
    else if isWordChar c then (.word, 1 + runLength isWordChar rest)
    else
      match longSigns.find? fun sign => sign.toList.isPrefixOf (c :: rest) with
      | some sign => (.sign, sign.length)
      | none => (if shortSigns.contains c then .sign else .illegal, 1)

/-! ## Taking a text apart -/

/-- How many bytes the characters take. -/
def bytesOf (s : List Char) : Nat := s.foldl (fun n c => n + c.utf8Size) 0

/-- The tokens of the rest of a text, of which so many bytes and a gap have been read. -/
def readFrom : Nat → (offset : Nat) → (gap : List Char) → List Char → List Token
  | 0, _, _, _ => []
  | _, _, _, [] => []
  | fuel + 1, offset, gap, s =>
    let blank := gapLength s
    if 0 < blank then
      let passed := s.take blank
      readFrom fuel (offset + bytesOf passed) (gap ++ passed) (s.drop blank)
    else
      let (kind, length) := measure s
      let spelling := s.take length
      ⟨kind, gap, spelling, offset⟩ ::
        readFrom fuel (offset + bytesOf spelling) [] (s.drop length)

/-- The tokens of a text. -/
def ofText (text : String) : List Token := readFrom text.length 0 [] text.toList

/-! ## What a token says -/

/-- Whether a token is this word; ASCII case does not count. -/
def isWord (word : String) (t : Token) : Bool :=
  t.kind = .word && Text.sameIgnoringCase (String.ofList t.spelling) word

/-- Whether a token is this sign. -/
def isSign (sign : String) (t : Token) : Bool := t.kind = .sign && t.spelling = sign.toList

/-- What stands between quotes, up to the closing one. -/
def unquotedFrom (close : Char) : List Char → List Char
  | c :: d :: rest =>
    if c ≠ close then c :: unquotedFrom close (d :: rest)
    else if d = close then c :: unquotedFrom close rest
    else []
  | [c] => if c = close then [] else [c]
  | [] => []

/-- The text without the quotes it begins with, if it does, and what follows them. -/
def unquoted (s : List Char) : List Char :=
  match s with
  | '[' :: rest => unquotedFrom ']' rest
  | c :: rest => if c = '"' || c = '\'' || c = '\x60' then unquotedFrom c rest else c :: rest
  | [] => []

/-- The name that a token stands for. -/
def name (t : Token) : String := String.ofList (unquoted t.spelling)

/-- A stretch of a statement as it is written, from its first token to its last. -/
def stretch : List Token → List Char
  | [] => []
  | t :: rest => t.spelling ++ rest.flatMap fun t => t.gap ++ t.spelling

end Token

end DottedQuery.Store
