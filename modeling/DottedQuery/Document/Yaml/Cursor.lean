/-
# DottedQuery.Document.Yaml.Cursor -- a place in a YAML text

A cursor is the rest of the text with the line, column and count of characters before it.
Indentation and the limits of simple keys are stated in these numbers. Line breaks are CR,
LF, CR LF, NEL and the two Unicode separators; blanks are space and tab.
-/

namespace DottedQuery.Document.Yaml

/-! ## Characters -/

/-- A space or a tab. -/
def isBlank (c : Char) : Bool := c = ' ' || c = '\t'

/-- A character that ends a line. -/
def isBreak (c : Char) : Bool :=
  c = '\r' || c = '\n' || c = '\x85' || c = '\u2028' || c = '\u2029'

/-- A character of names: an ASCII letter or digit, an underscore or a hyphen. -/
def isNameChar (c : Char) : Bool := c.isAlphanum || c = '_' || c = '-'

/-- Whether a text may contain the character at all. -/
def isAllowed (c : Char) : Bool :=
  let n := c.toNat
  c = '\t' || c = '\n' || c = '\r' || (0x20 ≤ n && n ≤ 0x7E) || n = 0x85 ||
    (0xA0 ≤ n && n ≤ 0xD7FF) || (0xE000 ≤ n && n ≤ 0xFFFD) || (0x10000 ≤ n && n ≤ 0x10FFFF)

/-! ## Cursors -/

/-- The rest of a text and where it begins. -/
structure Cursor where
  rest : List Char
  index : Nat := 0
  line : Nat := 0
  column : Nat := 0

namespace Cursor

/-- The next character. -/
def head? (c : Cursor) : Option Char := c.rest.head?

/-- Whether the next character is this one. -/
def sees (c : Cursor) (ch : Char) : Bool := c.head? = some ch

/-- Whether the text is at its end. -/
def atEnd (c : Cursor) : Bool := c.rest.isEmpty

/-- Whether the next character satisfies the test. -/
def satisfies (c : Cursor) (p : Char → Bool) : Bool := (c.head?.map p).getD false

/-- Whether the character `n` places on is a blank, a line break or missing. -/
def blankOrEndAt (c : Cursor) (n : Nat) : Bool :=
  (c.rest[n]?.map fun ch => isBlank ch || isBreak ch).getD true

/-- Whether the next character is a blank, a line break or missing. -/
def blankOrEnd (c : Cursor) : Bool := c.blankOrEndAt 0

/-- Whether the next character is a line break or missing. -/
def breakOrEnd (c : Cursor) : Bool := (c.head?.map isBreak).getD true

/-- Passes one character on the same line. -/
def skip (c : Cursor) : Cursor :=
  { c with rest := c.rest.tail, index := c.index + 1, column := c.column + 1 }

/-- Passes some characters on the same line. -/
def skipN : Nat → Cursor → Cursor
  | 0, c => c
  | n + 1, c => skipN n c.skip

/-- Passes the characters on this line that satisfy the test. -/
def skipWhile (p : Char → Bool) (c : Cursor) : Cursor :=
  let passed := (c.rest.takeWhile p).length
  { c with
    rest := c.rest.dropWhile p, index := c.index + passed, column := c.column + passed }

/-- The characters ahead that satisfy the test, and the cursor after them. -/
def takeWhile (p : Char → Bool) (c : Cursor) : List Char × Cursor :=
  (c.rest.takeWhile p, c.skipWhile p)

/-- Passes a line break, which comes out as a line feed unless it is a separator. At
anything else nothing is passed. -/
def lineBreak (c : Cursor) : List Char × Cursor :=
  let next (n : Nat) (rest : List Char) : Cursor := ⟨rest, c.index + n, c.line + 1, 0⟩
  match c.rest with
  | '\r' :: '\n' :: rest => (['\n'], next 2 rest)
  | ch :: rest =>
    if ch = '\u2028' ∨ ch = '\u2029' then ([ch], next 1 rest)
    else if isBreak ch then (['\n'], next 1 rest)
    else ([], c)
  | [] => ([], c)

/-- Whether a line begins here with three of these characters that stand alone: the mark
of the start or the end of a document. -/
def seesMark (c : Cursor) (ch : Char) : Bool :=
  c.column = 0 && c.rest.take 3 == [ch, ch, ch] && c.blankOrEndAt 3

/-- Whether a document starts or ends here. -/
def seesDocumentMark (c : Cursor) : Bool := c.seesMark '-' || c.seesMark '.'

/-- Passes a comment, if one begins here. -/
def skipComment (c : Cursor) : Cursor :=
  if c.sees '#' then c.skipWhile (!isBreak ·) else c

end Cursor

end DottedQuery.Document.Yaml
