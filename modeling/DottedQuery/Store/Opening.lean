/-
# DottedQuery.Store.Opening -- databases in files

A database is opened by its name. A file that does not exist is made, without tables, where
its directory exists and the name does not ask otherwise. Opening does not look into the
file: whether it holds a database shows when the database is first used.
-/
import DottedQuery.Store.Location
import DottedQuery.Store.Schema

namespace DottedQuery.Store

/-- An open database: what its first use finds. -/
abbrev Opened := Except StoreError Database

/-- The database that bytes spell. No bytes are a database without tables. -/
def ofBytes (bytes : List UInt8) : Opened :=
  if bytes.isEmpty then .ok {} else do Database.ofImage (← Image.ofBytes bytes)

/-- The database in a file. -/
def ofContent : FileContent → Opened
  | .database db => .ok db
  | .bytes bytes => ofBytes bytes
  | .directory => .error .notDatabase

/-- What stands at a location: nothing yet where a file can be made. -/
def Location.content? (files : Files) (l : Location) : Option FileContent := do
  let steps ← pathSteps? files l.path
  match files.at? steps with
  | some (.file content) => some content
  | some .directory => none
  | none =>
    match l.access, files.at? steps.dropLast with
    | .create, some .directory => some (.bytes [])
    | _, _ => none

/-- Opens a database. -/
def openDatabase (files : Files) (name : String) : Except StoreError Opened :=
  match Location.ofName? name with
  | none => .error (.cannotOpen name)
  | some l =>
    if l.inMemory then .ok (.ok {})
    else if l.pattern.all files.exists then
      match l.content? files with
      | some content => .ok (ofContent content)
      | none => .error (.cannotOpen name)
    else .error (.cannotOpen name)

end DottedQuery.Store
