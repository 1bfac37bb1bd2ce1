/-
# DottedQuery.Store.Creation -- databases from definitions and rows

A table is created by the statement that defines it, and its rows are put in after that. A
table whose columns cannot be read, as they follow from each other, is refused. The database
keeps a list of what was created, with the page on which the tree of each table or index
begins.
-/
import DottedQuery.Sql.Dialect
import DottedQuery.Store.Insertion

namespace DottedQuery.Store

/-! ## Statements -/

/-- What a table is created from: its columns with their types and constraints, its foreign
keys and its rows. -/
structure TableSource where
  name : String
  columns : List (String × String)
  foreignKeys : List ForeignKey := []
  rows : List Row := []

/-- Why a database cannot be created: a statement and what is wrong with it. -/
structure CreationError where
  statement : String
  fault : Fault
  deriving Repr

/-- The fault, and where in the statement it lies. -/
def CreationError.message (e : CreationError) : String :=
  match e.fault.offset with
  | some offset =>
    e.fault.message ++ " in " ++ e.statement ++ " at offset " ++ toString offset
  | none => e.fault.message

/-- A name in quotes. -/
def quotedName (name : String) : String :=
  String.ofList (Sql.Dialect.sqlite.quoteChars name.toList)

/-- Names in brackets. -/
def namesText (names : List String) : String :=
  "(" ++ ", ".intercalate (names.map quotedName) ++ ")"

/-- A foreign key in a definition. -/
def ForeignKey.text (key : ForeignKey) : String :=
  "FOREIGN KEY " ++ namesText key.columns ++ " REFERENCES " ++ quotedName key.parent ++
    match key.parentColumns with
    | some names => " " ++ namesText names
    | none => ""

/-- The statement that creates a table. -/
def TableSource.text (source : TableSource) : String :=
  let column (c : String × String) : String :=
    if c.2.isEmpty then quotedName c.1 else quotedName c.1 ++ " " ++ c.2
  "CREATE TABLE " ++ quotedName source.name ++ " (" ++
    ", ".intercalate (source.columns.map column ++ source.foreignKeys.map ForeignKey.text) ++ ")"

/-- What the statement that creates a view says before the name. -/
def viewStart : String := "CREATE VIEW "

/-- What a view is created from: its name, and the table or view of which it shows all. -/
structure ViewSource where
  name : String
  shown : String

namespace ViewSource

/-- The statement that creates a view. -/
def text (view : ViewSource) : String :=
  viewStart ++ quotedName view.name ++ " AS SELECT * FROM " ++ quotedName view.shown

/-- The view. -/
def view (view : ViewSource) : View where
  name := view.name
  query := some (.ofTable view.shown)

end ViewSource

/-! ## Creation -/

/-- A database that is being created, and how many pages it takes. -/
structure Making where
  db : Database := {}
  pages : Nat := 1

/-- The table in which the database keeps the greatest keys that were given. -/
def sequenceDefinition : TableDefinition where
  name := "sqlite_sequence"
  columns := [{ name := "name", declared := "" }, { name := "seq", declared := "" }]

namespace Making

/-- Checks that a name is free and not reserved. -/
def checkName (m : Making) (name spelling : String) (offset : Nat) : Except Fault Unit :=
  let taken (kind : String) : Except Fault Unit :=
    .error ⟨kind ++ " " ++ spelling ++ " already exists", some offset⟩
  if Text.sameIgnoringCase (String.ofList (name.toList.take 7)) "sqlite_" then
    .error ⟨"object name reserved for internal use: " ++ name, none⟩
  else if (m.db.table? name).isSome then taken "table"
  else if m.db.views.any fun v => Text.sameIgnoringCase v.name name then taken "view"
  else .ok ()

/-- Adds an entry to the list of what was created; a tree begins on a page of its own. -/
def enter (m : Making) (kind name owner : String) (hasTree : Bool) (text : Option String) :
    Making :=
  let pages := if hasTree then m.pages + 1 else m.pages
  let root : Cell := .int (if hasTree then Int64.ofNat pages else 0)
  let row := [.ofString kind, .ofString name, .ofString owner, root, (text.map .ofString).getD .null]
  let key := Int64.ofNat (m.db.schema.length + 1)
  { db := { m.db with schema := m.db.schema ++ [⟨key, row⟩] }, pages }

/-- Enters a table and the indexes that its constraints need. -/
def enterTable (m : Making) (d : TableDefinition) (text : String) : Making :=
  d.indexNames.foldl (fun m name => m.enter "index" name d.name true none)
    (m.enter "table" d.name d.name true (some text))

/-- Adds a table. -/
def addTable (m : Making) (table : Table) : Making :=
  { m with db := { m.db with tables := m.db.tables ++ [table] } }

/-- Adds the table of the greatest keys, unless it is there. -/
def addSequences (m : Making) : Making :=
  let name := sequenceDefinition.name
  if (m.db.table? name).isSome then m
  else
    (m.enterTable sequenceDefinition "CREATE TABLE sqlite_sequence(name,seq)").addTable
      (sequenceDefinition.table [])

/-- Notes the greatest key that was given in a table. -/
def noteSequence (m : Making) (name : String) (greatest : Int) : Making :=
  let note (t : Table) : Table :=
    if t.name = sequenceDefinition.name then
      let key := Int64.ofNat (t.records.length + 1)
      { t with records := t.records ++ [⟨key, [.ofString name, .int (Int64.ofInt greatest)]⟩] }
    else t
  { m with db := { m.db with tables := m.db.tables.map note } }

/-- Reads the definition of a table whose name is free. -/
def define (m : Making) : Reader TableDefinition := do
  let token ← Reader.tableName
  m.checkName token.name (String.ofList token.spelling) token.offset
  Reader.tableBody token.name

/-- Creates a table with its rows. -/
def createTable (m : Making) (source : TableSource) : Except CreationError Making := do
  let text := source.text
  let blame (fault : Fault) : CreationError := ⟨text, fault⟩
  let d ← (m.define.run' { ahead := Token.ofText text }).mapError blame
  d.checkReading.mapError blame
  let stock ← (d.fill source.rows).mapError blame
  let m := m.enterTable d text
  if d.key.any (·.rising) then
    let m := m.addSequences.addTable (d.table stock.records)
    return if source.rows.isEmpty then m else m.noteSequence d.name stock.greatest
  else return m.addTable (d.table stock.records)

/-- Creates a view. -/
def createView (m : Making) (view : ViewSource) : Except CreationError Making := do
  let text := view.text
  (m.checkName view.name (quotedName view.name) viewStart.length).mapError (⟨text, ·⟩)
  let m := m.enter "view" view.name view.name false (some text)
  return { m with db := { m.db with views := m.db.views ++ [view.view] } }

end Making

/-- A database of these tables and views. -/
def Database.create (tables : List TableSource) (views : List ViewSource) :
    Except CreationError Database := do
  let m ← tables.foldlM Making.createTable {}
  return (← views.foldlM Making.createView m).db

end DottedQuery.Store
