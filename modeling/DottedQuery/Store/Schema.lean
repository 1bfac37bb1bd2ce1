/-
# DottedQuery.Store.Schema -- the database in a file

The first page of a database file is the root of a table that lists what there is: for each
table, view and index its kind, its name, the table it belongs to, the root of its tree and its
definition. A list that says something else than the definitions is not read at all; a single
tree that does not hang together makes only its own table unreadable. What lies in a row of a
table is less than what is read from it: the key of the row is written as null in its column, a
double that is an integer may be written as an integer, and some computed columns are not
written.
-/
import DottedQuery.Store.Insertion
import DottedQuery.Store.PageTree

namespace DottedQuery.Store

/-! ## The list -/

/-- An entry of the list. -/
structure SchemaEntry where
  kind : String
  name : String
  owner : String
  root : Nat
  definition : String
  deriving DecidableEq, Repr

/-- What a cell spells; null spells nothing. -/
def Cell.spelled (cell : Cell) : String := Text.ofUtf8Lossy cell.textBytes

/-- An entry by its row, unless the root is no number. -/
def SchemaEntry.ofRow? (row : Row) : Option SchemaEntry :=
  match row with
  | [kind, name, owner, root, definition] =>
    if root.spelled.isEmpty || !root.spelled.toList.all Char.isDigit then none
    else
      some ⟨kind.spelled, name.spelled, owner.spelled,
        Decimal.natOfDigits root.spelled.toList, definition.spelled⟩
  | _ => none

/-- What a definition creates. -/
structure Created where
  kind : String
  name : String
  /-- Whether the rows are made by a module of the database system. -/
  virtual : Bool
  deriving DecidableEq, Repr

/-- Takes the beginning of a definition up to the name. -/
def Reader.created : Reader Created := do
  word "create"
  let _ ← takeIf fun t => ["temp", "temporary", "unique"].any t.isWord
  let virtual ← wordIf "virtual"
  let kind ← take fun t => ["table", "view", "index", "trigger"].any t.isWord
  if ← wordIf "if" then
    word "not"
    word "exists"
  return ⟨Text.asciiLower kind.name, ← name, virtual⟩

/-- What a definition creates, if it begins as one. -/
def Created.ofText? (text : String) : Option Created :=
  (Reader.created.run' { ahead := Token.ofText text }).toOption

/-- Whether an entry is about what its definition creates. -/
def SchemaEntry.fits (entry : SchemaEntry) (c : Created) : Bool :=
  let isTable : Bool := c.kind = "table" || c.kind = "view"
  Text.sameIgnoringCase entry.kind c.kind && Text.sameIgnoringCase entry.name c.name &&
    (!isTable || Text.sameIgnoringCase entry.owner c.name)

/-! ## Records -/

namespace TableDefinition

/-- The columns whose cells are written, in the order in which they are: where the rows are kept
by the primary key, its columns come first. -/
def writtenPositions (d : TableDefinition) : List Nat :=
  let isWritten (i : Nat) : Bool :=
    d.columns[i]?.all fun c => c.computation.all fun computation => computation.stored
  let all := (List.range d.columns.length).filter isWritten
  let primary := (d.primary.map (·.position)).eraseDups
  if d.keyed then all else primary ++ all.filter (!primary.contains ·)

/-- A definition whose texts compare as they are spelled in a file. -/
def spelledIn (d : TableDefinition) (encoding : TextEncoding) : TableDefinition :=
  let spelled (c : ColumnDefinition) : ColumnDefinition :=
    { c with collation := c.collation.spelledIn encoding }
  { d with columns := d.columns.map spelled }

end TableDefinition

namespace ColumnDefinition

/-- A cell of the column by what is written: a column of doubles may hold integers. -/
def reread (c : ColumnDefinition) (cell : Cell) : Cell :=
  match cell with
  | .int n => if c.affinity = .real then .real (Float.ofInt n.toInt) else .int n
  | cell => cell

/-- The cell of a row that was written before the column was added: its default, if that is
known. -/
def earlier? (c : ColumnDefinition) : Option Cell :=
  match c.preset with
  | .none => some .null
  | .cell cell => some (c.affinity.stored cell)
  | .unknown => none

end ColumnDefinition

/-- The record that is read where a record is written. -/
def readRecord (d : TableDefinition) (written : Record) : Except StoreError Record :=
  let cell? (i : Nat) (c : ColumnDefinition) : Option Cell :=
    if d.holdsKeys i then some (.int written.key)
    else
      match d.writtenPositions.idxOf? i with
      | none => some .null
      | some place =>
        match written.cells[place]? with
        | some cell => some (c.reread cell)
        | none => c.earlier?
  match (d.columns.zipIdx.mapM fun (c, i) => cell? i c) with
  | none => .error (.notUnderstood d.name)
  | some cells =>
    match d.completed (fun computation => !computation.stored) (cells ++ [.int written.key]) with
    | .ok row => .ok { written with cells := row.take d.columns.length }
    | .error _ => .error (.notUnderstood d.name)

/-! ## Tables and views -/

/-- The records of the table of an entry. -/
def recordsOfEntry (image : Image) (d : TableDefinition) (entry : SchemaEntry) :
    Except StoreError (List Record) :=
  match if d.keyed then image.records? entry.root else image.indexRecords? entry.root with
  | some records => records.mapM (readRecord d)
  | none => .error .damaged

/-- The table of an entry. -/
def tableOfEntry (image : Image) (d : TableDefinition) (entry : SchemaEntry) : Table :=
  let found := recordsOfEntry image d entry
  let table : Table :=
    { d.table (found.toOption.getD []) with name := entry.name }
  match found with
  | .ok _ => table
  | .error cause => { table with flaw := some cause }

/-- Takes the definition of a view. -/
def Reader.viewBody (name : String) : Reader View := do
  let columns ← if ← sees (·.isSign "(") then do pure (some (← bracketedList Reader.name))
    else pure none
  word "as"
  let query ← wholeQuery
  match ← ahead with
  | [] => return { name, columns, query := some query }
  | t :: _ =>
    if t.isSign ";" then return { name, columns, query := some query } else stuck

/-- The view of an entry. -/
def entryView (entry : SchemaEntry) : View :=
  let reading : Reader View := do
    let _ ← Reader.created
    Reader.viewBody entry.name
  match reading.run' { ahead := Token.ofText entry.definition } with
  | .ok view => view
  | .error _ => { name := entry.name, query := none }

/-! ## Indexes -/

/-- The columns of an index. -/
def Table.indexColumns? (t : Table) (encoding : TextEncoding)
    (parts : List (String × Option String × Bool)) : Option (List IndexColumn) :=
  parts.mapM fun (name, collation, falling) => do
    let position ← t.columns.findIdx? fun c => Text.sameIgnoringCase c.name name
    let own := ((t.columns[position]?).map (·.collation)).getD .binary
    let collation ←
      match collation with
      | none => some own
      | some name => (collationOf? name).map (·.spelledIn encoding)
    return { position, collation, falling }

/-- The index of an entry, if it is on all records by columns. -/
def entryIndex? (t : Table) (encoding : TextEncoding) (entry : SchemaEntry) : Option Index := do
  let tokens := Token.ofText entry.definition
  let reading : Reader (List (String × Option String × Bool)) := do
    let _ ← Reader.created
    Reader.word "on"
    let _ ← Reader.name
    let parts ← Reader.bracketedList Reader.keyedColumn
    match ← Reader.ahead with
    | [] => return parts
    | t :: _ => if t.isSign ";" then return parts else Reader.stuck
  let parts ← (reading.run' { ahead := tokens }).toOption
  return { columns := ← t.indexColumns? encoding parts
           unique := tokens[1]?.any (·.isWord "unique")
           purpose := .search }

/-- The table with the index of an entry, if that is on it. -/
def Table.withEntryIndex (t : Table) (encoding : TextEncoding) (entry : SchemaEntry) : Table :=
  if Text.sameIgnoringCase t.name entry.owner then
    { t with indexes := (entryIndex? t encoding entry).toList ++ t.indexes }
  else t

/-! ## Databases -/

/-- A database that is being read, and the indexes that its constraints need. -/
structure Loading where
  db : Database := {}
  indexNames : List String := []
  /-- The tables whose rows are made by modules. -/
  modules : List String := []

namespace Loading

/-- Whether there is a table or a view of this name. -/
def hasOwner (l : Loading) (name : String) : Bool :=
  (l.db.table? name).isSome || (l.db.view? name).isSome ||
    l.modules.any (Text.sameIgnoringCase name)

/-- Adds a table whose name is free. -/
def addTable (l : Loading) (image : Image) (entry : SchemaEntry) : Except StoreError Loading :=
  match TableDefinition.ofText? entry.definition with
  | none => .error .damaged
  | some d =>
    let d := d.spelledIn image.encoding
    if entry.root = 1 || (l.db.table? entry.name).isSome then .error .damaged
    else
      .ok { db := { l.db with tables := l.db.tables ++ [tableOfEntry image d entry] }
            indexNames := l.indexNames ++ d.indexNames }

/-- Adds what an entry defines. -/
def define (l : Loading) (image : Image) (entry : SchemaEntry) : Except StoreError Loading :=
  match Created.ofText? entry.definition with
  | none => .error .damaged
  | some c =>
    if !entry.fits c || image.pages < entry.root then .error .damaged
    else if c.virtual then .ok { l with modules := l.modules ++ [entry.name] }
    else if c.kind = "table" then l.addTable image entry
    else if c.kind = "view" then
      if entry.root ≠ 0 then .error .damaged
      else .ok { l with db := { l.db with views := l.db.views ++ [entryView entry] } }
    else if !l.hasOwner entry.owner then .error .damaged
    else if c.kind = "index" then
      let tables := l.db.tables.map (·.withEntryIndex image.encoding entry)
      .ok { l with db := { l.db with tables } }
    else .ok l

/-- Adds an entry. One without a definition is about an index that a constraint needs. -/
def add (l : Loading) (image : Image) (record : Record) : Except StoreError Loading := do
  match SchemaEntry.ofRow? record.cells with
  | none => throw .damaged
  | some entry =>
    let start := String.ofList (entry.definition.toList.take 2)
    let l ←
      if Text.sameIgnoringCase start "cr" then l.define image entry
      else if entry.definition.isEmpty && l.indexNames.any (Text.sameIgnoringCase entry.name) &&
          2 ≤ entry.root && entry.root ≤ image.pages then pure l
      else throw .damaged
    return { l with db := { l.db with schema := l.db.schema ++ [record] } }

end Loading

/-- The database in a file. -/
def Database.ofImage (image : Image) : Except StoreError Database :=
  match image.records? 1 with
  | none => .error .damaged
  | some records =>
    let start : Loading := { db := { encoding := image.encoding } }
    (records.foldlM (Loading.add · image ·) start).map Loading.db

end DottedQuery.Store
