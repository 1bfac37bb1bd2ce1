/-
# DottedQuery.Sql.Dialect -- the dialects of SQL

Four dialects, which differ in the mark around identifiers and in the placeholders for
values. An identifier may hold any character: the mark itself is written twice.
-/
import DottedQuery.Text.LetterCase

namespace DottedQuery.Sql

/-- A dialect of SQL. -/
inductive Dialect where
  | sqlite
  | postgres
  | mysql
  | duckdb
  deriving DecidableEq, Repr

namespace Dialect

/-- All dialects. -/
def all : List Dialect := [sqlite, postgres, mysql, duckdb]

/-- The name of the dialect. -/
def name : Dialect → String
  | sqlite => "sqlite"
  | postgres => "postgres"
  | mysql => "mysql"
  | duckdb => "duckdb"

/-- All dialects under their names. -/
def named : List (String × Dialect) := all.map fun d => (d.name, d)

/-- The dialect of this name in any case; `postgresql` is a second name. A text that names
none is given back in lower case. -/
def ofName (name : String) : Except String Dialect :=
  let lower := Text.asciiLower name
  match (named ++ [("postgresql", postgres)]).lookup lower with
  | some dialect => .ok dialect
  | none => .error lower

/-! ## Identifiers and placeholders -/

/-- The mark around identifiers. -/
def quoteMark : Dialect → Char
  | mysql => '\x60'
  | sqlite | postgres | duckdb => '"'

/-- A character inside quoted text. -/
def quoteChar (mark c : Char) : List Char := if c = mark then [mark, mark] else [c]

/-- An identifier between quotes. -/
def quoteChars (d : Dialect) (identifier : List Char) : List Char :=
  d.quoteMark :: (identifier.flatMap (quoteChar d.quoteMark) ++ [d.quoteMark])

/-- An identifier between quotes. -/
def quote (d : Dialect) (identifier : String) : String :=
  String.ofList (d.quoteChars identifier.toList)

/-- The placeholder of the value with this number, the first being 1. -/
def placeholder : Dialect → Nat → String
  | postgres, number => "$" ++ toString number
  | sqlite, _ | mysql, _ | duckdb, _ => "?"

end Dialect

end DottedQuery.Sql
