/-
# DottedQuery.Store.Error -- why a database does not answer
-/
import DottedQuery.Sql.Select

namespace DottedQuery.Store

/-- What can go wrong in a database. -/
inductive StoreError where
  /-- There is no file, and none can be made. -/
  | cannotOpen (name : String)
  /-- The file is something else than a database. -/
  | notDatabase
  /-- The file is of a later format. -/
  | unfamiliar
  /-- The pages of the file do not hang together. -/
  | damaged
  /-- A table is stored in a way that is not read here. -/
  | notUnderstood (table : String)
  | noTable (name : String)
  | noColumn (column : Sql.QualifiedColumn)
  /-- A view cannot be shown. -/
  | refused (message : String)
  /-- More tables are joined than the database system admits. -/
  | tooManyTables
  deriving DecidableEq, Repr

/-- What went wrong. -/
def StoreError.message : StoreError → String
  | cannotOpen name => "unable to open database file: " ++ name
  | notDatabase => "file is not a database"
  | unfamiliar => "unsupported file format"
  | damaged => "database disk image is malformed"
  | notUnderstood table => "cannot read table: " ++ table
  | noTable name => "no such table: " ++ name
  | noColumn column => "no such column: " ++ column.aliasName ++ "." ++ column.column
  | refused message => message
  | tooManyTables => "at most 64 tables in a join"

end DottedQuery.Store
