/-
# DottedQuery.Document.Yaml.Token -- the tokens of a YAML text

Tokens make the structure of a text explicit: collections written by indentation get a
start and an end, and a key written without a mark gets one. `Token.all` cuts a text into
tokens. A key without a mark is recognised only by the colon after it, so a token that may
be such a key is held back until that is settled; if the text goes wrong before, the tokens
held back are never delivered and `broken` comes in their place.
-/
import DottedQuery.Document.Yaml.ScalarText

namespace DottedQuery.Document.Yaml

/-- A token. -/
inductive Token where
  | version (major minor : Nat)
  | tagHandle (handle expansion : String)
  | documentStart
  | documentEnd
  | blockSequence
  | blockMapping
  | blockEnd
  | flowSequence
  | flowSequenceEnd
  | flowMapping
  | flowMappingEnd
  | blockEntry
  | flowEntry
  | key
  | value
  | aliased (name : String)
  | anchor (name : String)
  | tag (handle suffix : String)
  | scalar (plain : Bool) (text : String)
  | streamEnd
  | broken
  deriving DecidableEq, Repr, Inhabited

/-! ## Directives, anchors and tags -/

/-- Passes a comment and the end of a line; anything else is an error. -/
def endOfLine? (c : Cursor) : Option Cursor :=
  let c := (c.skipWhile isBlank).skipComment
  if c.breakOrEnd then some c.lineBreak.2 else none

/-- A number of at most nine digits. -/
def versionNumber? (c : Cursor) : Option (Nat × Cursor) :=
  let (digits, next) := c.takeWhile Char.isDigit
  if digits.isEmpty || 9 < digits.length then none
  else some (digits.foldl (fun n ch => n * 10 + (ch.toNat - 48)) 0, next)

/-- The handle of a tag: from one `!` to another around a name. Without the second `!` it
is the beginning of a tag, and in a directive only a lone `!`. -/
def tagHandle? (directive : Bool) (c : Cursor) : Option (List Char × Cursor) := do
  if !c.sees '!' then none
  let (name, next) := c.skip.takeWhile isNameChar
  if next.sees '!' then return ('!' :: (name ++ ['!']), next.skip)
  else if directive && !name.isEmpty then none
  else return ('!' :: name, next)

/-- A character of a tag; the brackets and the comma only inside a tag in angle brackets. -/
def isTagChar (bracketed : Bool) (c : Char) : Bool :=
  isNameChar c || ";/?:@&=+$.!~*'()%".toList.contains c ||
    (bracketed && [',', '[', ']'].contains c)

/-- The byte of a percent escape. -/
def percentByte? (c : Cursor) : Option (Nat × Cursor) :=
  match c.rest with
  | '%' :: a :: b :: _ => (Text.hexNumber? [a, b]).map (·, c.skipN 3)
  | _ => none

/-- The character that percent escapes spell in UTF-8. -/
def percentChar? (c : Cursor) : Option (Char × Cursor) := do
  let (lead, next) ← percentByte? c
  let more (count bits : Nat) : Option (Char × Cursor) := do
    let (bits, next) ← (List.range count).foldlM
      (fun (state : Nat × Cursor) _ => do
        let (byte, next) ← percentByte? state.2
        if byte / 64 = 2 then return (state.1 * 64 + byte % 64, next) else none)
      (bits, next)
    return (Char.ofNat bits, next)
  if lead < 0x80 then return (Char.ofNat lead, next)
  else if lead / 32 = 6 then more 1 (lead % 32)
  else if lead / 16 = 14 then more 2 (lead % 16)
  else if lead / 8 = 30 then more 3 (lead % 8)
  else none

/-- The characters of a tag. -/
def tagChars? (bracketed : Bool) : Nat → Cursor → Option (List Char × Cursor)
  | 0, _ => none
  | fuel + 1, c =>
    match c.head? with
    | none => some ([], c)
    | some ch =>
      if !isTagChar bracketed ch then some ([], c)
      else do
        let (ch, next) ← if ch = '%' then percentChar? c else some (ch, c.skip)
        let (rest, next) ← tagChars? bracketed fuel next
        return (ch :: rest, next)

/-- The characters of a tag after what has been read of it; none at all is an error. -/
def tagSuffix? (bracketed : Bool) (before : List Char) (c : Cursor) :
    Option (List Char × Cursor) := do
  let (suffix, next) ← tagChars? bracketed c.fuel c
  if before.isEmpty && suffix.isEmpty then none
  else return (before.drop 1 ++ suffix, next)

/-- A tag: in angle brackets, or a handle and a suffix. -/
def tag? (flow : Bool) (c : Cursor) : Option (Token × Cursor) := do
  let (handle, suffix, next) ←
    if c.rest[1]? = some '<' then do
      let (suffix, next) ← tagSuffix? true [] (c.skipN 2)
      if next.sees '>' then some ([], suffix, next.skip) else none
    else do
      let (handle, next) ← tagHandle? false c
      if 1 < handle.length ∧ handle.getLast? = some '!' then do
        let (suffix, next) ← tagSuffix? false [] next
        some (handle, suffix, next)
      else do
        let (suffix, next) ← tagSuffix? false handle next
        if suffix.isEmpty then some ([], ['!'], next) else some (['!'], suffix, next)
  if next.blankOrEnd || (flow && next.sees ',') then
    return (.tag (String.ofList handle) (String.ofList suffix), next)
  else none

/-- The name of an anchor or of an alias after its mark. -/
def anchorName? (c : Cursor) : Option (String × Cursor) :=
  let (name, next) := c.takeWhile isNameChar
  let ends := next.blankOrEnd || next.satisfies ("?:,]\x7d%@`".toList.contains ·)
  if name.isEmpty || !ends then none else some (String.ofList name, next)

/-- A directive after its percent sign: the version or a tag handle. -/
def directive? (c : Cursor) : Option (Token × Cursor) := do
  let (name, next) := c.takeWhile isNameChar
  if name.isEmpty || !next.blankOrEnd then none
  let next := next.skipWhile isBlank
  if name = "YAML".toList then
    let (major, next) ← versionNumber? next
    if !next.sees '.' then none
    let (minor, next) ← versionNumber? next.skip
    return (.version major minor, ← endOfLine? next)
  else if name = "TAG".toList then
    let (handle, next) ← tagHandle? true next
    if !next.satisfies isBlank then none
    let (expansion, next) ← tagSuffix? true [] (next.skipWhile isBlank)
    if !next.blankOrEnd then none
    return (.tagHandle (String.ofList handle) (String.ofList expansion), ← endOfLine? next)
  else none

/-! ## The state of the cutting -/

/-- A token that may turn out to be a key: its number, where it begins, and whether the
layout demands that it is one. -/
structure PossibleKey where
  number : Nat
  index : Nat
  line : Nat
  column : Nat
  required : Bool

/-- What has been read and what is still open. -/
structure Scan where
  cursor : Cursor
  /-- Tokens read and not yet delivered. -/
  queue : List Token := []
  /-- How many tokens have been delivered. -/
  delivered : Nat := 0
  /-- The column of the innermost collection written by indentation, and those around it. -/
  indent : Int := -1
  outer : List Int := []
  /-- Whether a key may begin here. -/
  keyAllowed : Bool := true
  /-- The possible key of the innermost level of brackets, and of those around it. -/
  keys : List (Option PossibleKey) := [none]

namespace Scan

/-- Whether the text is inside brackets. -/
def inFlow (s : Scan) : Bool := 1 < s.keys.length

/-- The column of the next character. -/
def column (s : Scan) : Int := s.cursor.column

/-- Appends a token. -/
def emit (s : Scan) (token : Token) : Scan := { s with queue := s.queue ++ [token] }

/-- Puts a token before the one with the given number. -/
def emitBefore (s : Scan) (number : Nat) (token : Token) : Scan :=
  { s with queue := s.queue.insertIdx (number - s.delivered) token }

/-- Moves to a cursor. -/
def goto (s : Scan) (c : Cursor) : Scan := { s with cursor := c }

/-- Gives up the possible keys that the text has left behind: a key ends on its line and
within 1024 characters. One that the layout demands is an error. -/
def dropStale (s : Scan) : Option Scan := do
  let keys ← s.keys.mapM fun key =>
    match key with
    | none => some none
    | some k =>
      if k.line < s.cursor.line ∨ k.index + 1024 < s.cursor.index then
        if k.required then none else some none
      else some (some k)
  return { s with keys }

/-- Gives up the innermost possible key. One that the layout demands is an error. -/
def dropKey (s : Scan) : Option Scan :=
  match s.keys with
  | some k :: rest => if k.required then none else some { s with keys := none :: rest }
  | _ => some s

/-- Notes that the next token may be a key. -/
def noteKey (s : Scan) : Option Scan :=
  if !s.keyAllowed then some s
  else do
    let key : PossibleKey :=
      { number := s.delivered + s.queue.length
        index := s.cursor.index
        line := s.cursor.line
        column := s.cursor.column
        required := !s.inFlow && s.indent = s.column }
    let s ← s.dropKey
    return { s with keys := some key :: s.keys.tail }

/-- Opens a collection at a deeper column. -/
def openBlock (s : Scan) (column : Int) (place : Option Nat) (token : Token) : Scan :=
  if s.inFlow || column ≤ s.indent then s
  else
    let s := { s with outer := s.indent :: s.outer, indent := column }
    match place with
    | none => s.emit token
    | some number => s.emitBefore number token

/-- Closes the collections at columns beyond the given one. -/
def closeBlocks (column : Int) : List Int → Scan → Scan
  | [], s => s
  | indent :: outer, s =>
    if s.inFlow || s.indent ≤ column then s
    else closeBlocks column outer { s.emit .blockEnd with indent, outer }

/-- Closes the collections at columns beyond the given one. -/
def close (s : Scan) (column : Int) : Scan := closeBlocks column s.outer s

/-- Passes blanks, comments and line breaks before the next token. Tabs count as blanks
where no key may begin. -/
def toNextToken : Nat → Scan → Scan
  | 0, s => s
  | fuel + 1, s =>
    let c := s.cursor
    let c := if c.column = 0 && c.sees '\uFEFF' then c.skip else c
    let tabs := s.inFlow || !s.keyAllowed
    let c := (c.skipWhile fun ch => ch = ' ' || (tabs && ch = '\t')).skipComment
    if c.satisfies isBreak then
      toNextToken fuel { s with cursor := c.lineBreak.2, keyAllowed := s.keyAllowed || !s.inFlow }
    else s.goto c

/-! ## Reading one token -/

/-- The end of the text closes everything. -/
def fetchEnd (s : Scan) : Option Scan := do
  let c := s.cursor
  let s := if c.column = 0 then s else s.goto { c with line := c.line + 1, column := 0 }
  let s ← (s.close (-1)).dropKey
  return { s with keyAllowed := false }.emit .streamEnd

/-- A token that stands between documents. -/
def fetchBetween (s : Scan) (read : Cursor → Option (Token × Cursor)) : Option Scan := do
  let s ← (s.close (-1)).dropKey
  let (token, next) ← read s.cursor
  return ({ s with keyAllowed := false }.goto next).emit token

/-- An opening bracket. -/
def fetchOpening (s : Scan) (token : Token) : Option Scan := do
  let s ← s.noteKey
  return ({ s with keys := none :: s.keys, keyAllowed := true }.goto s.cursor.skip).emit token

/-- A closing bracket. -/
def fetchClosing (s : Scan) (token : Token) : Option Scan := do
  let s ← s.dropKey
  let keys := if s.inFlow then s.keys.tail else s.keys
  return ({ s with keys, keyAllowed := false }.goto s.cursor.skip).emit token

/-- A comma. -/
def fetchComma (s : Scan) : Option Scan := do
  let s ← s.dropKey
  return ({ s with keyAllowed := true }.goto s.cursor.skip).emit .flowEntry

/-- A hyphen before an item. -/
def fetchEntry (s : Scan) : Option Scan := do
  if !s.inFlow && !s.keyAllowed then none
  let s ← (s.openBlock s.column none .blockSequence).dropKey
  return ({ s with keyAllowed := true }.goto s.cursor.skip).emit .blockEntry

/-- A question mark before a key. -/
def fetchKey (s : Scan) : Option Scan := do
  if !s.inFlow && !s.keyAllowed then none
  let s ← (s.openBlock s.column none .blockMapping).dropKey
  return ({ s with keyAllowed := !s.inFlow }.goto s.cursor.skip).emit .key

/-- A colon before a value. If a possible key stands before it, that was a key. -/
def fetchValue (s : Scan) : Option Scan :=
  match s.keys with
  | some k :: rest =>
    let s := s.emitBefore k.number .key
    let s := s.openBlock k.column (some k.number) .blockMapping
    some (({ s with keys := none :: rest, keyAllowed := false }.goto s.cursor.skip).emit .value)
  | _ =>
    if !s.inFlow && !s.keyAllowed then none
    else
      let s := s.openBlock s.column none .blockMapping
      some (({ s with keyAllowed := !s.inFlow }.goto s.cursor.skip).emit .value)

/-- A token that may be a key or the beginning of one. -/
def fetchContent (s : Scan) (read : Cursor → Option (Token × Cursor)) : Option Scan := do
  let s ← s.noteKey
  let (token, next) ← read s.cursor
  return ({ s with keyAllowed := false }.goto next).emit token

/-- A plain scalar. After one that ends at the beginning of a line a key may begin. -/
def fetchPlain (s : Scan) : Option Scan := do
  let s ← s.noteKey
  let (text, next, atLineStart) ←
    plainText s.inFlow (s.indent + 1) s.cursor.fuel [] {} s.cursor
  return ({ s with keyAllowed := atLineStart }.goto next).emit (.scalar true (String.ofList text))

/-- A block scalar. -/
def fetchBlock (s : Scan) (literal : Bool) : Option Scan := do
  let s ← s.dropKey
  let (text, next) ← blockText literal s.indent s.cursor.skip
  return ({ s with keyAllowed := true }.goto next).emit (.scalar false (String.ofList text))

/-- Whether a plain scalar may begin here. -/
def startsPlain (s : Scan) : Bool :=
  let c := s.cursor
  let indicators := "-?:,[]\x7b\x7d#&*!|>'\"%@`".toList
  (!c.blankOrEnd && !c.satisfies (indicators.contains ·)) ||
    (c.sees '-' && !((c.rest[1]?.map isBlank).getD false)) ||
    (!s.inFlow && (c.sees '?' || c.sees ':') && !c.blankOrEndAt 1)

/-- Reads the next token, and whatever tokens the layout adds. -/
def fetch (s : Scan) : Option Scan := do
  let s ← (s.toNextToken s.cursor.fuel).dropStale
  let s := s.close s.column
  let c := s.cursor
  let standsAlone := s.inFlow || c.blankOrEndAt 1
  match c.head? with
  | none => s.fetchEnd
  | some ch =>
    if c.column = 0 && ch = '%' then s.fetchBetween fun c => directive? c.skip
    else if c.seesMark '-' then s.fetchBetween fun c => some (.documentStart, c.skipN 3)
    else if c.seesMark '.' then s.fetchBetween fun c => some (.documentEnd, c.skipN 3)
    else if ch = '[' then s.fetchOpening .flowSequence
    else if ch = '\x7b' then s.fetchOpening .flowMapping
    else if ch = ']' then s.fetchClosing .flowSequenceEnd
    else if ch = '\x7d' then s.fetchClosing .flowMappingEnd
    else if ch = ',' then s.fetchComma
    else if ch = '-' && c.blankOrEndAt 1 then s.fetchEntry
    else if ch = '?' && standsAlone then s.fetchKey
    else if ch = ':' && standsAlone then s.fetchValue
    else if ch = '*' then
      s.fetchContent fun c => (anchorName? c.skip).map fun (name, next) => (.aliased name, next)
    else if ch = '&' then
      s.fetchContent fun c => (anchorName? c.skip).map fun (name, next) => (.anchor name, next)
    else if ch = '!' then s.fetchContent (tag? s.inFlow)
    else if ch = '|' && !s.inFlow then s.fetchBlock true
    else if ch = '>' && !s.inFlow then s.fetchBlock false
    else if ch = '\'' || ch = '"' then
      s.fetchContent fun c =>
        (quotedText (ch = '\'') c.fuel [] c.skip).map fun (text, next) =>
          (.scalar false (String.ofList text), next)
    else if s.startsPlain then s.fetchPlain
    else none

/-! ## Delivery -/

/-- Whether the first token of the queue may still turn out to be a key. -/
def isHeld (s : Scan) : Bool :=
  s.keys.any fun key => (key.map fun k => k.number == s.delivered).getD false

/-- The tokens in the order of their delivery, up to the end of the text or a fault. -/
def tokens : Nat → Scan → List Token
  | 0, _ => [.broken]
  | fuel + 1, s =>
    match s.queue with
    | [] =>
      match s.fetch with
      | none => [.broken]
      | some s => tokens fuel s
    | token :: queue =>
      match s.dropStale with
      | none => [.broken]
      | some s =>
        if s.isHeld then
          match s.fetch with
          | none => [.broken]
          | some s => tokens fuel s
        else if token = .streamEnd then [token]
        else token :: tokens fuel { s with queue, delivered := s.delivered + 1 }

end Scan

/-- The tokens of a text. A character that no text may contain spoils it from the start. -/
def Token.all (text : List Char) : List Token :=
  if !text.all isAllowed then [.broken]
  else Scan.tokens (8 * text.length + 16) { cursor := { rest := text } }

end DottedQuery.Document.Yaml
