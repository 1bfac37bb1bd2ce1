/-
# DottedQuery.Sql.Statement -- statements as text

A statement is written as a sequence of pieces: fixed words, identifiers and operands. Text
is made of the words as they are, the identifiers between quotes, and a placeholder for each
operand, numbered from 1. The operands themselves never get into the text; they are listed
beside it in the same order.
-/
import DottedQuery.Json.Text
import DottedQuery.Sql.Dialect
import DottedQuery.Sql.Select

namespace DottedQuery.Sql

/-! ## Pieces -/

/-- A piece of a statement. -/
inductive Piece where
  | words (text : String)
  | name (identifier : String)
  | operand (value : Value)
  deriving Repr

namespace Piece

/-- The operand of a piece, if it is one. -/
def operand? : Piece → Option Value
  | operand value => some value
  | words _ | name _ => none

/-- The text of pieces, with `number` for the first operand. -/
def textFrom (d : Dialect) (number : Nat) : List Piece → List Char
  | [] => []
  | words text :: rest => text.toList ++ textFrom d number rest
  | name identifier :: rest => d.quoteChars identifier.toList ++ textFrom d number rest
  | operand _ :: rest => (d.placeholder number).toList ++ textFrom d (number + 1) rest

end Piece

/-- The text of a statement and the operands of its placeholders. -/
structure Statement where
  text : String
  operands : List Value

/-- The statement of these pieces. -/
def Statement.ofPieces (d : Dialect) (pieces : List Piece) : Statement where
  text := String.ofList (Piece.textFrom d 1 pieces)
  operands := pieces.filterMap Piece.operand?

/-- The statement as JSON. -/
def Statement.toJson (s : Statement) : Json.Tree :=
  .object [("sql", .leaf (Json.stringText s.text)),
    ("params", .array (s.operands.map Json.ofValue))]

/-! ## The pieces of a select statement -/

open Piece (words name operand)

/-- A column of a table. -/
def columnPieces (c : QualifiedColumn) : List Piece := [name c.aliasName, words ".", name c.column]

/-- A table and its alias. -/
def sourcePieces (s : Source) : List Piece := [name s.table, words " AS ", name s.aliasName]

/-- The sign of a comparison. -/
def comparisonSign : Comparison → String
  | .equal => "="
  | .different => "<>"
  | .less => "<"
  | .greater => ">"

/-- The start of a substring test on a column. A test that respects case is called
differently from dialect to dialect. -/
def partPieces (d : Dialect) (column : QualifiedColumn) : List Piece :=
  match d with
  | .sqlite | .duckdb => words "instr(" :: columnPieces column
  | .postgres => words "strpos(" :: columnPieces column
  | .mysql => words "INSTR(CAST(" :: columnPieces column ++ [words " AS BINARY)"]

/-- A condition on a column. -/
def conditionPieces (d : Dialect) (column : QualifiedColumn) : Condition → List Piece
  | .compare comparison value =>
    columnPieces column ++ [words (" " ++ comparisonSign comparison ++ " "), operand value]
  | .contains part => partPieces d column ++ [words ", ", operand (.text part), words ") > 0"]
  | .isNull => columnPieces column ++ [words " IS NULL"]
  | .isNotNull => columnPieces column ++ [words " IS NOT NULL"]

/-- The words that introduce a joined table. -/
def joinWords : JoinKind → String
  | .inner => " INNER JOIN "
  | .left => " LEFT JOIN "

/-- A joined table. -/
def joinPieces (kind : JoinKind) (j : Join) : List Piece :=
  words (joinWords kind) :: sourcePieces j.source ++ words " ON " ::
    columnPieces ⟨j.source.aliasName, j.targetColumn⟩ ++ words " = " :: columnPieces j.partner

/-- Groups of pieces, with words before the first and other words between them. -/
def chainPieces (before between : String) : List (List Piece) → List Piece
  | [] => []
  | group :: rest => words before :: group ++ rest.flatMap (words between :: ·)

namespace Select

/-- The pieces of the statement. -/
def pieces (s : Select) (d : Dialect) : List Piece :=
  words "SELECT " :: [words ", "].intercalate (s.columns.map columnPieces) ++
    words " FROM " :: sourcePieces s.root ++ s.joins.flatMap (joinPieces s.joinKind) ++
    chainPieces " WHERE " " AND " (s.conditions.map fun c => conditionPieces d c.1 c.2)

/-- The statement in a dialect. -/
def statement (s : Select) (d : Dialect) : Statement := .ofPieces d (s.pieces d)

end Select

end DottedQuery.Sql
