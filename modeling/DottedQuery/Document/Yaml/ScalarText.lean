/-
# DottedQuery.Document.Yaml.ScalarText -- the text of plain, quoted and block scalars

A scalar may run over several lines. Between two of its lines a single line break is folded
into a space, and of several breaks all but the first are kept; `Gap` is what has been seen
between two parts of a scalar and `Gap.text` what is left of it. Literal blocks keep their
breaks. A text that breaks a rule of its style has no reading.
-/
import DottedQuery.Document.Yaml.Cursor
import DottedQuery.Text.Hex

namespace DottedQuery.Document.Yaml

/-! ## Gaps -/

/-- Blanks and line breaks between two parts of a scalar. -/
structure Gap where
  /-- Blanks before any line break. -/
  blanks : List Char := []
  /-- Whether a line has ended. -/
  broken : Bool := false
  /-- The first line break. -/
  first : List Char := []
  /-- The line breaks after the first. -/
  others : List Char := []

/-- What a gap contributes to the text. -/
def Gap.text (g : Gap) : List Char :=
  if !g.broken then g.blanks
  else if g.first.head? = some '\n' then if g.others.isEmpty then [' '] else g.others
  else g.first ++ g.others

/-- Reads blanks and line breaks. Where `indent` is given, no tab may stand before that
column at the beginning of a line. -/
def Gap.scan (indent : Option Int) : Nat → Gap → Cursor → Option (Gap × Cursor)
  | 0, _, _ => none
  | fuel + 1, g, c =>
    match c.head? with
    | none => some (g, c)
    | some ch =>
      if isBlank ch then
        if g.broken then
          let tooEarly := (indent.map fun n => decide ((c.column : Int) < n)).getD false
          if ch = '\t' ∧ tooEarly then none
          else scan indent fuel g c.skip
        else scan indent fuel { g with blanks := g.blanks ++ [ch] } c.skip
      else if isBreak ch then
        let (text, next) := c.lineBreak
        if g.broken then scan indent fuel { g with others := g.others ++ text } next
        else scan indent fuel { g with blanks := [], broken := true, first := text } next
      else some (g, c)

/-- Fuel that suffices for a scan of the rest of the text. -/
def Cursor.fuel (c : Cursor) : Nat := c.rest.length + 1

/-! ## Plain scalars -/

/-- A character that ends a plain scalar inside brackets. -/
def isFlowIndicator (c : Char) : Bool :=
  c = ',' || c = '[' || c = ']' || c = '\x7b' || c = '\x7d'

/-- The characters of a plain scalar up to the next blank or the end of the scalar. Inside
brackets a colon must not stand before an indicator. -/
def plainRun (flow : Bool) : Nat → Cursor → Option (List Char × Cursor)
  | 0, _ => none
  | fuel + 1, c =>
    match c.head? with
    | none => some ([], c)
    | some ch =>
      let colonBeforeIndicator :=
        flow && ch = ':' && (c.rest[1]?.map fun n => isFlowIndicator n || n = '?').getD false
      if isBlank ch || isBreak ch then some ([], c)
      else if colonBeforeIndicator then none
      else if (ch = ':' && c.blankOrEndAt 1) || (flow && isFlowIndicator ch) then some ([], c)
      else do
        let (rest, next) ← plainRun flow fuel c.skip
        return (ch :: rest, next)

/-- The text of a plain scalar, the cursor after it, and whether it ends at the beginning
of a line. -/
def plainText (flow : Bool) (indent : Int) :
    Nat → List Char → Gap → Cursor → Option (List Char × Cursor × Bool)
  | 0, _, _, _ => none
  | fuel + 1, text, gap, c =>
    if c.seesDocumentMark || c.sees '#' then some (text, c, gap.broken)
    else do
      let (run, next) ← plainRun flow c.fuel c
      let text := if run.isEmpty then text else text ++ gap.text ++ run
      let gap := if run.isEmpty then gap else {}
      if next.satisfies fun ch => isBlank ch || isBreak ch then
        let (gap, next) ← gap.scan (some indent) next.fuel next
        if !flow && (next.column : Int) < indent then return (text, next, gap.broken)
        else plainText flow indent fuel text gap next
      else return (text, next, gap.broken)

/-! ## Quoted scalars -/

/-- What an escape of one letter stands for. -/
def escape? : Char → Option Char
  | '0' => some '\x00'
  | 'a' => some '\x07'
  | 'b' => some '\x08'
  | 't' | '\t' => some '\t'
  | 'n' => some '\n'
  | 'v' => some '\x0b'
  | 'f' => some '\x0c'
  | 'r' => some '\r'
  | 'e' => some '\x1b'
  | ' ' => some ' '
  | '"' => some '"'
  | '/' => some '/'
  | '\\' => some '\\'
  | 'N' => some '\x85'
  | '_' => some '\xa0'
  | 'L' => some '\u2028'
  | 'P' => some '\u2029'
  | _ => none

/-- How many digits a numeric escape has. -/
def escapeWidth? : Char → Option Nat
  | 'x' => some 2
  | 'u' => some 4
  | 'U' => some 8
  | _ => none

/-- A code point as a character; surrogates and larger numbers are none. -/
def charOfNat? (n : Nat) : Option Char :=
  if n < 0xD800 ∨ (0xE000 ≤ n ∧ n < 0x110000) then some (Char.ofNat n) else none

/-- An escape after its backslash. -/
def escapeAt? (c : Cursor) : Option (Char × Cursor) := do
  let letter ← c.head?
  match escapeWidth? letter with
  | none => return (← escape? letter, c.skip)
  | some width =>
    let digits := c.skip.rest.take width
    if digits.length ≠ width then none
    return (← charOfNat? (← Text.hexNumber? digits), c.skip.skipN width)

/-- The quote that ends the scalar. -/
def quoteChar (single : Bool) : Char := if single then '\'' else '"'

/-- The characters of a quoted scalar up to the next blank or its quote; also whether an
escaped line break ended them. -/
def quotedRun (single : Bool) : Nat → Cursor → Option (List Char × Cursor × Bool)
  | 0, _ => none
  | fuel + 1, c =>
    match c.rest with
    | [] => some ([], c, false)
    | ch :: after =>
      let takeOne (ch : Char) (next : Cursor) : Option (List Char × Cursor × Bool) := do
        let (rest, next, folded) ← quotedRun single fuel next
        return (ch :: rest, next, folded)
      if isBlank ch || isBreak ch then some ([], c, false)
      else if single && ch = '\'' && after.head? = some '\'' then takeOne '\'' (c.skipN 2)
      else if ch = quoteChar single then some ([], c, false)
      else if !single && ch = '\\' then
        if c.skip.satisfies isBreak then some ([], c.skip.lineBreak.2, true)
        else do
          let (ch, next) ← escapeAt? c.skip
          takeOne ch next
      else takeOne ch c.skip

/-- The text of a quoted scalar after its opening quote, and the cursor after its closing
quote. -/
def quotedText (single : Bool) : Nat → List Char → Cursor → Option (List Char × Cursor)
  | 0, _, _ => none
  | fuel + 1, text, c =>
    if c.seesDocumentMark || c.atEnd then none
    else do
      let (run, next, folded) ← quotedRun single c.fuel c
      let text := text ++ run
      if next.sees (quoteChar single) then return (text, next.skip)
      else
        let (gap, next) ← Gap.scan none next.fuel { broken := folded } next
        quotedText single fuel (text ++ gap.text) next

/-! ## Block scalars -/

/-- What becomes of the line breaks at the end of a block. -/
inductive Chomping where
  | strip
  | clip
  | keep
  deriving DecidableEq

/-- The header of a block: chomping and an explicit indentation, in either order. -/
def blockHeader? (c : Cursor) : Option (Chomping × Option Nat × Cursor) :=
  let chomping (c : Cursor) : Option Chomping :=
    if c.sees '+' then some .keep else if c.sees '-' then some .strip else none
  let digit (c : Cursor) : Option Nat :=
    c.head?.bind fun ch => if ch.isDigit then some (ch.toNat - 48) else none
  match chomping c with
  | some chomp =>
    match digit c.skip with
    | some 0 => none
    | some n => some (chomp, some n, c.skip.skip)
    | none => some (chomp, none, c.skip)
  | none =>
    match digit c with
    | some 0 => none
    | some n =>
      match chomping c.skip with
      | some chomp => some (chomp, some n, c.skip.skip)
      | none => some (.clip, some n, c.skip)
    | none => some (.clip, none, c)

/-- Passes indentation and empty lines before a line of a block, collecting the line
breaks. With no indentation known yet (`none`), the deepest of these lines sets it, but at
least `least`. A tab in the indentation is an error. -/
def blockBreaks (least : Nat) (indent : Option Nat) :
    Nat → Nat → List Char → Cursor → Option (List Char × Nat × Cursor)
  | 0, _, _, _ => none
  | fuel + 1, deepest, breaks, c =>
    let room (column : Nat) : Bool := (indent.map fun n => decide (column < n)).getD true
    let spaces := (c.rest.takeWhile (· = ' ')).length
    let passed :=
      match indent with
      | some n => min spaces (n - c.column)
      | none => spaces
    let c := c.skipN passed
    let deepest := max deepest c.column
    if room c.column && c.sees '\t' then none
    else if c.satisfies isBreak then
      let (text, next) := c.lineBreak
      blockBreaks least indent fuel deepest (breaks ++ text) next
    else some (breaks, indent.getD (max deepest least), c)

/-- What has been read of a block: its text, the break of the last line, the breaks of
empty lines after it, and whether the last line began with a blank. -/
structure Block where
  text : List Char := []
  last : List Char := []
  empty : List Char := []
  blankLed : Bool := false

/-- The lines of a block whose indentation is known. -/
def blockLines (literal : Bool) (least indent : Nat) :
    Nat → Block → Cursor → Option (Block × Cursor)
  | 0, _, _ => none
  | fuel + 1, b, c =>
    if c.column ≠ indent ∨ c.atEnd then some (b, c)
    else do
      let blankLed := c.satisfies isBlank
      let folds := !literal && b.last.head? = some '\n' && !b.blankLed && !blankLed
      let joint := if folds then if b.empty.isEmpty then [' '] else [] else b.last
      let (line, next) := c.takeWhile (!isBreak ·)
      let (last, next) := next.lineBreak
      let (empty, _, next) ← blockBreaks least (some indent) next.fuel 0 [] next
      blockLines literal least indent fuel
        { text := b.text ++ joint ++ b.empty ++ line, last, empty, blankLed } next

/-- The text of a block scalar after its indicator, and the cursor after it. `parent` is
the indentation of the collection around it. -/
def blockText (literal : Bool) (parent : Int) (c : Cursor) : Option (List Char × Cursor) := do
  let (chomping, explicit, c) ← blockHeader? c
  let c := (c.skipWhile isBlank).skipComment
  if !c.breakOrEnd then none
  let c := c.lineBreak.2
  let least := (max (parent + 1) 1).toNat
  let indent := explicit.map fun n => (max parent 0).toNat + n
  let (empty, indent, c) ← blockBreaks least indent c.fuel 0 [] c
  let (b, c) ← blockLines literal least indent c.fuel { empty } c
  let tail :=
    match chomping with
    | .strip => []
    | .clip => b.last
    | .keep => b.last ++ b.empty
  return (b.text ++ tail, c)

end DottedQuery.Document.Yaml
