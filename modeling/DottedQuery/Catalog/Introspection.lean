/-
# DottedQuery.Catalog.Introspection -- a catalog from the tables of a database

Every table becomes an entity of its name, its columns the fields. A foreign key becomes a
relationship to one record on the child, named after its column or after the parent, and
one to many records on the parent, named after the child. A name that is taken is not
given twice: relationships to one record come before those to many, and a key with a
smaller number before one with a greater. A key over several columns counts once for each
column.
-/
import DottedQuery.Catalog.Basic
import DottedQuery.Naming.Sentence
import DottedQuery.Naming.Singular
import DottedQuery.Store.Database

namespace DottedQuery.Catalog

open Store (Database Table mentions)

/-! ## Columns and tables -/

/-- The type of a field by the declared type of its column. -/
def typeOfDeclared (declared : String) : DataType :=
  if mentions declared ["BOOL"] then .boolean
  else if mentions declared ["INT"] then .integer
  else if mentions declared ["CHAR", "CLOB", "TEXT"] then .text
  else if mentions declared ["REAL", "FLOA", "DOUB"] then .float
  else if mentions declared ["DATE", "TIME"] then .timestamp
  else .unknown

/-- Whether a table belongs to the database system: its name is `sqlite` in any case and at
least one more character. -/
def isSystemTable (name : String) : Bool :=
  Text.sameIgnoringCase (String.ofList (name.toList.take 6)) "sqlite" && 6 < name.length

/-- The tables of the user by name, as the database puts its texts in order. -/
def userTables (db : Database) : List Table :=
  (db.tables.filter fun t => !isSystemTable t.name).mergeSort fun a b =>
    ¬db.encoding.Before b.name a.name

/-! ## Foreign keys -/

/-- One column of a foreign key. -/
structure KeyColumn where
  child : String
  column : String
  parent : String
  parentColumn : String
  deriving DecidableEq, Repr

/-- The columns of the foreign keys of a table. The key declared last comes first. A key
that does not name the parent's columns is taken to refer to `id`. -/
def keyColumns (t : Table) : List KeyColumn :=
  t.foreignKeys.reverse.flatMap fun key =>
    key.columns.mapIdx fun i column =>
      let parentColumn := (key.parentColumns.bind (·[i]?)).getD "id"
      ⟨t.name, column, key.parent, parentColumn⟩

/-- The name of the relationship to the parent: the column without a trailing `_id`, or the
singular of the parent if that leaves nothing or there is none. -/
def parentName (key : KeyColumn) : String :=
  match Naming.stem? "_id" key.column with
  | some stem => if stem.isEmpty then Naming.singular key.parent else stem
  | none => Naming.singular key.parent

/-- Adds a relationship unless its name is taken. -/
def addFresh (e : Entity) (name : String) (link : Link) : Entity :=
  if (e.relationship? name).isSome then e else e.addLink name link

/-- Adds the relationship of a key of this table to its parent. -/
def addParent (e : Entity) (key : KeyColumn) : Entity :=
  addFresh e (parentName key) ⟨key.parent, key.column, key.parentColumn, .one⟩

/-- Adds the relationship of a parent to the table of a key. -/
def addChildren (e : Entity) (key : KeyColumn) : Entity :=
  addFresh e key.child ⟨key.child, key.parentColumn, key.column, .many⟩

/-! ## Introspection -/

/-- The entity of a table, given the keys of all tables. -/
def entityOfTable (keys : List KeyColumn) (t : Table) : Entity :=
  let columns := (t.columns.filter (!·.computed)).map fun c => (c.name, typeOfDeclared c.declared)
  let plain := (Entity.ofName t.name).addFields columns
  let own := (keys.filter (·.child = t.name)).foldl addParent plain
  (keys.filter (·.parent = t.name)).foldl addChildren own

/-- The entities of the tables of a database. -/
def entitiesOfDatabase (db : Database) : List Entity :=
  let tables := userTables db
  tables.map (entityOfTable (tables.flatMap keyColumns))

/-- The catalog of a database. -/
def introspect (db : Database) : Except BuildError Catalog := build (entitiesOfDatabase db)

end DottedQuery.Catalog
