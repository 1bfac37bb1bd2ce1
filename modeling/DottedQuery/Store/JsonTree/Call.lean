/-
# DottedQuery.Store.JsonTree.Call -- functions on JSON documents

Functions read documents from texts and blobs, look parts of them up, change them, and make new
ones. A text that a function has made of a document is still known to be one, so that another
function puts it in as it is and not as a text. Every function has a sister, whose name tells
so, that gives a blob instead.
-/
import DottedQuery.Store.JsonTree.Binary
import DottedQuery.Store.JsonTree.Path
import DottedQuery.Store.JsonTree.Reading
import DottedQuery.Store.Printing

namespace DottedQuery.Store

/-- A cell, and whether it is known to be a document. -/
structure MarkedCell where
  cell : Cell
  isJson : Bool := false

namespace JsonTree

/-! ## Documents in cells -/

/-- The bytes of a cell. -/
def cellBytes (cell : Cell) : List Char := Cell.byteChars cell.textBytes

/-- Whether a cell is a blob that looks like a document. -/
def isBinaryCell (cell : Cell) : Bool :=
  match cell with
  | .blob bytes => looksBinary (Cell.byteChars bytes)
  | _ => false

/-- The document in a cell; a null holds none. -/
def ofCell? (cell : Cell) : Worked (Option JsonTree) :=
  match cell with
  | .null => .ok none
  | cell =>
    let tree? :=
      if isBinaryCell cell then ofBinary? (cellBytes cell)
      else (read cell.visibleByteChars).toOption.map (·.1)
    match tree? with
    | some t => .ok (some t)
    | none => complain "malformed JSON"

/-- A double in a document. -/
def realSpelling (x : Float) : List Char :=
  Directive.double { precise := true, zeros := true, precision := some 15 } .general 'e' x

/-- A cell as it is written into a document. -/
def spelled (m : MarkedCell) : Worked (List Char) :=
  match m.cell with
  | .null => .ok "null".toList
  | .int _ => .ok (cellBytes m.cell)
  | .real x => .ok (realSpelling x)
  | .text _ => .ok (if m.isJson then cellBytes m.cell else quotedText (cellBytes m.cell))
  | .blob _ =>
    match if isBinaryCell m.cell then ofBinary? (cellBytes m.cell) else none with
    | some t => .ok t.written
    | none => complain "JSON cannot hold BLOB values"

/-- A cell as a part of a document. -/
def ofMarked (m : MarkedCell) : Worked JsonTree :=
  match m.cell with
  | .null => .ok .null
  | .int _ => .ok (.int (cellBytes m.cell))
  | .real x =>
    .ok (.real (if x.isInf then (if x < 0.0 then "-9e999".toList else "9e999".toList)
      else cellBytes m.cell))
  | .text _ =>
    if m.isJson then
      match read m.cell.visibleByteChars with
      | .ok (t, _) => .ok t
      | .error _ => complain "malformed JSON"
    else .ok (.text ⟨.raw, cellBytes m.cell⟩)
  | .blob _ =>
    match if isBinaryCell m.cell then ofBinary? (cellBytes m.cell) else none with
    | some t => .ok t
    | none => complain "JSON cannot hold BLOB values"

/-- A document as a result, as a blob or as a text. -/
def result (asBlob : Bool) (t : JsonTree) : MarkedCell :=
  if asBlob then ⟨.blob (t.binary.map fun c => UInt8.ofNat c.toNat), false⟩
  else ⟨.ofByteChars t.written, true⟩

/-- A document that is written already as a result. -/
def writtenResult (asBlob : Bool) (s : List Char) : Worked MarkedCell :=
  if asBlob then
    match read s with
    | .ok (t, _) => .ok (result true t)
    | .error _ => complain "malformed JSON"
  else .ok ⟨.ofByteChars s, true⟩

/-- A null as a result. -/
def nothing : MarkedCell := ⟨.null, false⟩

/-! ## Paths -/

/-- The complaint about a path. -/
def badPath {α : Type} (path : List Char) : Worked α :=
  let text := Cell.literal (.ofByteChars path)
  complain ("bad JSON path: " ++ Text.ofUtf8Lossy text.textBytes)

/-- The part that a path after its dollar sign leads to, if there is one. -/
def partAlong (t : JsonTree) (path steps : List Char) : Worked (Option JsonTree) :=
  match lookUp (steps.length + 1) t steps with
  | .part part => .ok (some part)
  | .nothing => .ok none
  | .fault => badPath path

/-- The part that a path leads to, which begins with a dollar sign. -/
def partAt (t : JsonTree) (path : List Char) : Worked (Option JsonTree) :=
  match path with
  | '$' :: steps => partAlong t path steps
  | _ => badPath path

/-- A path that need not begin with a dollar sign: it can be a place or a label. -/
def shortPath (cell : Cell) : List Char :=
  let s := cell.visibleByteChars
  match cell, s with
  | _, '$' :: steps => steps
  | .int _, s => '[' :: s ++ [']']
  | _, s =>
    if s.all fun c => c.isAlphanum || c = '_' then '.' :: s
    else if s.head? = some '[' && 3 ≤ s.length && s.getLast? = some ']' then s
    else '.' :: '"' :: s ++ ['"']

/-! ## Functions -/

/-- The part of a document by one path, as a cell. -/
def extracted (asBlob : Bool) (t : JsonTree) : MarkedCell :=
  if t.isCompound then result asBlob t else ⟨t.toCell, false⟩

/-- The parts of a document by several paths, as an array. -/
def extractAll (asBlob : Bool) (t : JsonTree) (paths : List Cell) : Worked MarkedCell := do
  if paths.any (· matches .null) then return nothing
  let parts ← paths.mapM fun path => partAt t path.visibleByteChars
  writtenResult asBlob ('[' :: commaSeparated (parts.map fun p => (p.getD .null).written) ++ [']'])

/-- Parts of a document. -/
def extract (asBlob : Bool) (cell : Cell) (paths : List Cell) : Worked MarkedCell := do
  match ← if paths.isEmpty then pure none else ofCell? cell, paths with
  | none, _ => return nothing
  | some _, [.null] => return nothing
  | some t, [path] =>
    return ((← partAt t path.visibleByteChars).map (extracted asBlob)).getD nothing
  | some t, paths => extractAll asBlob t paths

/-- The part of a document by a short path, written, or as a cell. -/
def arrow (asCell : Bool) (cell path : Cell) : Worked MarkedCell := do
  match ← ofCell? cell, path with
  | none, _ | _, .null => return nothing
  | some t, path =>
    match ← partAlong t path.visibleByteChars (shortPath path) with
    | none => return nothing
    | some part => return if asCell then ⟨part.toCell, false⟩ else result false part

/-- How many items an array has; anything else has none. -/
def length (cell : Cell) (path : Option Cell) : Worked MarkedCell := do
  match ← ofCell? cell, path with
  | none, _ | _, some .null => return nothing
  | some t, path =>
    let s := (path.map (·.visibleByteChars)).getD ['$']
    let steps := match s with
      | '$' :: steps => steps
      | _ => ['@']
    match ← partAlong t s steps with
    | some (.array items) => return ⟨.ofCount items.length, false⟩
    | some _ => return ⟨.int 0, false⟩
    | none => return nothing

/-- The name of the kind of a part. -/
def kindOf (cell : Cell) (path : Option Cell) : Worked MarkedCell := do
  match ← ofCell? cell, path with
  | none, _ | _, some .null => return nothing
  | some t, path =>
    let part ← partAt t ((path.map (·.visibleByteChars)).getD ['$'])
    return ((part.map fun t => ⟨.ofAscii t.kindName, false⟩)).getD nothing

/-- A document without some of its parts. -/
def without (asBlob : Bool) (t : JsonTree) : List Cell → Worked MarkedCell
  | [] => .ok (result asBlob t)
  | .null :: _ => .ok nothing
  | path :: rest =>
    match path.visibleByteChars with
    | ['$'] => .ok nothing
    | '$' :: steps =>
      match changed .remove (steps.length + 1) t steps with
      | .part (some t) => without asBlob t rest
      | .part none => .ok nothing
      | .nothing => without asBlob t rest
      | .fault => badPath path.visibleByteChars
    | path => badPath path

/-- A document with other parts, given as paths and values in turn. -/
def withParts (asBlob : Bool) (change : JsonTree → Change) (t : JsonTree) :
    List MarkedCell → Worked MarkedCell
  | path :: value :: rest =>
    match path.cell with
    | .null => withParts asBlob change t rest
    | cell =>
      match cell.visibleByteChars with
      | '$' :: steps => do
        let new ← ofMarked value
        match changed (change new) (steps.length + 1) t steps with
        | .part (some t) => withParts asBlob change t rest
        | .part none => return nothing
        | .nothing => withParts asBlob change t rest
        | .fault => badPath ('$' :: steps)
      | path => badPath path
  | _ => .ok (result asBlob t)

/-- A document with other parts, for a function of this name. -/
def modified (name : String) (asBlob : Bool) (change : JsonTree → Change) :
    List MarkedCell → Worked MarkedCell
  | [] => .ok nothing
  | first :: rest => do
    if rest.length % 2 = 1 then
      complain ("json_" ++ name ++ "() needs an odd number of arguments")
    else
      match ← ofCell? first.cell with
      | none => return nothing
      | some t => withParts asBlob change t rest

/-- The members of an object that is made of labels and values in turn. -/
def membersOf : List MarkedCell → Worked (List (List Char))
  | label :: value :: rest => do
    match label.cell with
    | .text _ =>
      let member := quotedText (cellBytes label.cell) ++ ':' :: (← spelled value)
      return member :: (← membersOf rest)
    | _ => complain "json_object() labels must be TEXT"
  | _ => .ok []

/-- Whether a cell is well formed, where some kinds of forms count. -/
def validity (cell : Cell) (flags : Int) : Worked MarkedCell :=
  let holds (b : Bool) : Worked MarkedCell := .ok ⟨.ofTruth (some b), false⟩
  let has (bit : Nat) : Bool := flags.toNat / bit % 2 = 1
  if flags < 1 || 15 < flags then
    complain "FLAGS parameter to json_valid() must be between 1 and 15"
  else
    match cell with
    | .null => .ok nothing
    | cell =>
      if isBinaryCell cell then
        holds (has 4 || (has 8 && (ofBinary? (cellBytes cell)).isSome))
      else
        match read cell.visibleByteChars with
        | .ok (_, loose) => holds (has 2 || (has 1 && !loose))
        | .error _ => holds false

/-- Where a text is at fault: the number of its character, counted from 1, or 0. -/
def faultPlace (cell : Cell) : MarkedCell :=
  match cell with
  | .null => nothing
  | cell =>
    let s := cell.visibleByteChars
    if isBinaryCell cell then
      ⟨.ofCount (if (ofBinary? (cellBytes cell)).isSome then 0 else 1), false⟩
    else
      match read s with
      | .ok _ => ⟨.int 0, false⟩
      | .error place =>
        ⟨.ofCount ((s.take place).countP (!Directive.goesOn ·) + 1), false⟩

/-- The value of a function of this name, where it may be the sister that gives a blob. -/
def callNamed (name : String) (asBlob : Bool) (operands : List MarkedCell) :
    Worked MarkedCell := do
  match name, operands with
  | "", a :: paths | "_remove", a :: paths =>
    match ← ofCell? a.cell with
    | none => return nothing
    | some t => without asBlob t (paths.map (·.cell))
  | "_array", items =>
    writtenResult asBlob ('[' :: commaSeparated (← items.mapM spelled) ++ [']'])
  | "_array_length", a :: path => length a.cell (path.head?.map (·.cell))
  | "_error_position", [a] => return faultPlace a.cell
  | "_extract", a :: paths => extract asBlob a.cell (paths.map (·.cell))
  | "_insert", _ => modified "insert" asBlob .insert operands
  | "_replace", _ => modified "replace" asBlob .replace operands
  | "_set", _ => modified "set" asBlob .set operands
  | "_object", members =>
    if members.length % 2 = 1 then
      complain "json_object() requires an even number of arguments"
    else writtenResult asBlob ('\x7b' :: commaSeparated (← membersOf members) ++ ['\x7d'])
  | "_patch", [a, b] =>
    match ← ofCell? a.cell with
    | none => return nothing
    | some t =>
      match ← ofCell? b.cell with
      | none => return nothing
      | some patch => return result asBlob (merged depthLimit t patch)
  | "_pretty", a :: indent =>
    match ← ofCell? a.cell with
    | none => return nothing
    | some t =>
      let blanks :=
        match (indent.head?.map (·.cell)).getD .null with
        | .null => "    ".toList
        | cell => cell.visibleByteChars
      return ⟨.ofByteChars (t.pretty blanks 0), false⟩
  | "_quote", [a] => writtenResult asBlob (← spelled a)
  | "_type", a :: path => kindOf a.cell (path.head?.map (·.cell))
  | "_valid", [a] => validity a.cell 1
  | "_valid", [a, flags] => validity a.cell flags.cell.toWhole.toInt
  | _, _ => return nothing

/-- The value of a function of this name. -/
def call (name : String) (operands : List MarkedCell) : Worked MarkedCell :=
  match name, operands with
  | "->", [a, path] => arrow false a.cell path.cell
  | "->>", [a, path] => arrow true a.cell path.cell
  | name, operands =>
    if "jsonb".isPrefixOf name then callNamed (name.drop 5).toString true operands
    else callNamed (name.drop 4).toString false operands

end JsonTree

end DottedQuery.Store
