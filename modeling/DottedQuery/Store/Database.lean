/-
# DottedQuery.Store.Database -- tables, records and views

A database is a list of tables with their columns, foreign keys and records, and views that
show what queries give. Every record has a key, by which the records of a table are
ordered.
-/
import DottedQuery.Store.Affinity
import DottedQuery.Store.Error
import DottedQuery.Store.Query.Basic

namespace DottedQuery.Store

/-! ## Columns -/

/-- A column with its declared type, empty if none is declared. -/
structure Column where
  name : String
  declared : String
  affinity : Affinity := .ofDeclared declared
  collation : Collation := .binary
  /-- Whether its cells follow from the others and are not shown among the columns. -/
  computed : Bool := false
  /-- Whether no cell of it is null. -/
  required : Bool := false
  deriving DecidableEq, Repr

/-- How the cells of a column compare. -/
def Column.manner (c : Column) : Manner := ⟨c.affinity, c.collation⟩

/-- The column in a database that spells its texts in an encoding. -/
def Column.spelledIn (c : Column) (encoding : TextEncoding) : Column :=
  { c with collation := c.collation.spelledIn encoding }

/-! ## Tables and views -/

/-- A foreign key: columns that refer to columns of a parent table. A key that does not
name the parent's columns refers to its primary key. -/
structure ForeignKey where
  columns : List String
  parent : String
  parentColumns : Option (List String)
  deriving DecidableEq, Repr

/-- A record of a table: its key, and its cells. -/
structure Record where
  key : Int64
  cells : Row
  deriving Inhabited, Repr

/-- A column by which records are put in order: its position, or that after all columns for the
key of the record, and how its texts compare. -/
structure IndexColumn where
  position : Nat
  collation : Collation := .binary
  falling : Bool := false
  deriving DecidableEq, Repr

/-- What an order of records is kept for. -/
inductive IndexPurpose where
  /-- The records themselves are kept in it. -/
  | records
  /-- No two records may agree on its columns. -/
  | constraint
  /-- It was asked for by itself. -/
  | search
  deriving DecidableEq, Repr

/-- An order of the records of a table that the database keeps. `unique` tells that no two
records agree on the columns. -/
structure Index where
  columns : List IndexColumn
  unique : Bool
  purpose : IndexPurpose
  deriving DecidableEq, Repr

/-- A table: foreign keys in the order of their declaration, records in the order of their
keys. -/
structure Table where
  name : String
  columns : List Column
  foreignKeys : List ForeignKey := []
  records : List Record := []
  /-- Whether statements see the keys of the records. -/
  keyed : Bool := true
  /-- The column that holds the keys of the records. -/
  keyColumn : Option Nat := none
  /-- The columns by which the records are kept in order, if not by their keys. -/
  order : List IndexColumn := []
  /-- The orders that are kept beside that of the keys, the last one first. -/
  indexes : List Index := []
  /-- Why the records cannot be read, if they cannot. -/
  flaw : Option StoreError := none
  deriving Repr

/-- A name for what a query gives, and perhaps names for its columns. -/
structure View where
  name : String
  columns : Option (List String) := none
  /-- The query, unless it is of a kind that is not worked out. -/
  query : Option Query

/-- Tables in the order of their creation, and views on them. `schema` is the list that the
database keeps of them. All texts are spelled in one encoding, which decides how they compare
unless a collation does. -/
structure Database where
  encoding : TextEncoding := .utf8
  tables : List Table := []
  views : List View := []
  schema : List Record := []
  deriving Inhabited

/-- The names that the keys of records go by. -/
def keyNames : List String := ["rowid", "oid", "_rowid_"]

namespace Database

/-- The table of this name; ASCII case does not count. -/
def table? (db : Database) (name : String) : Option Table :=
  db.tables.find? fun t => Text.sameIgnoringCase t.name name

/-- The view of this name; ASCII case does not count. -/
def view? (db : Database) (name : String) : Option View :=
  db.views.find? fun v => Text.sameIgnoringCase v.name name

end Database

end DottedQuery.Store
