/-
# DottedQuery.Store.Relation -- what a statement sees of a table

A relation has columns and rows. Where the rows have keys, a row ends with its key, which goes
by names of its own unless a column has the name.
-/
import DottedQuery.Store.Comparison
import DottedQuery.Store.Database

namespace DottedQuery.Store

/-- What a statement sees of a table. -/
structure Relation where
  columns : List Column
  /-- Whether every row ends with its key, under the names that keys have. -/
  keyed : Bool
  rows : List Row
  /-- How many columns at the end are seen only where they are named. -/
  hidden : Nat := 0
  /-- Whether the rows are those of a table. -/
  isTable : Bool := false
  /-- The column that holds the keys. -/
  keyColumn : Option Nat := none
  /-- The columns by which the rows are kept in order, if not by their keys. -/
  order : List IndexColumn := []
  /-- The orders that are kept beside that of the keys, the last one first. -/
  indexes : List Index := []
  deriving Repr

namespace Relation

/-- The columns that are seen where none is named. -/
def shown (r : Relation) : List Column := r.columns.take (r.columns.length - r.hidden)

/-- The position of the column of this name; ASCII case does not count. -/
def ownIndex? (r : Relation) (name : String) : Option Nat :=
  r.columns.findIdx? fun c => Text.sameIgnoringCase c.name name

/-- The position of the column of this name, or of the key. -/
def columnIndex? (r : Relation) (name : String) : Option Nat :=
  match r.ownIndex? name with
  | some i => some i
  | none =>
    if r.keyed && keyNames.any (Text.sameIgnoringCase name) then some r.columns.length else none

/-- How keys compare. -/
def keyManner : Manner := { affinity := .integer }

/-- How the cells at a position compare. -/
def mannerAt (r : Relation) (i : Nat) : Manner := (r.columns[i]?.map Column.manner).getD keyManner

/-- How many cells a row has with its key, or with a null in the place of one. -/
def width (r : Relation) : Nat := r.columns.length + 1

/-- A row with its key, or with a null in the place of one. -/
def fullRow (r : Relation) (row : Row) : Row := (List.range r.width).map (row.getD · .null)

end Relation

/-! ## Orders -/

/-- Whether a row comes before another by some columns, or may. Nulls come first. -/
def inOrder : List IndexColumn → Row → Row → Bool
  | [], _, _ => true
  | c :: columns, a, b =>
    let rank (row : Row) : List Int :=
      ((row.getD c.position .null).rank { collation := c.collation }).getD []
    if rank a = rank b then inOrder columns a b
    else if c.falling then rank b < rank a
    else rank a < rank b

/-! ## Tables -/

/-- A record as a row that ends with its key. -/
def Record.row (record : Record) : Row := record.cells ++ [.int record.key]

/-- A table as a relation. -/
def Table.relation (t : Table) : Relation where
  columns := t.columns
  keyed := t.keyed
  rows := t.records.map Record.row
  isTable := true
  keyColumn := t.keyColumn
  order := t.order
  indexes := t.indexes

/-! ## The list of tables -/

/-- The columns of the list of tables and views. -/
def schemaColumns : List Column :=
  [{ name := "type", declared := "TEXT" }, { name := "name", declared := "TEXT" },
    { name := "tbl_name", declared := "TEXT" }, { name := "rootpage", declared := "INT" },
    { name := "sql", declared := "TEXT" }]

/-- The list of tables and views as a relation. -/
def schemaRelation (encoding : TextEncoding) (entries : List Record) : Relation where
  columns := schemaColumns.map (·.spelledIn encoding)
  keyed := true
  rows := entries.map Record.row
  isTable := true

end DottedQuery.Store
