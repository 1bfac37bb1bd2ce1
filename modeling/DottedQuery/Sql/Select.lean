/-
# DottedQuery.Sql.Select -- select statements

The structure of a statement, before any dialect: the columns, the table the rows come
from, the tables joined to it one after the other, each by equality of two columns, and
conditions that all have to hold. A plan determines its statement up to the kind of join.
-/
import DottedQuery.Plan.Basic

namespace DottedQuery

namespace Sql

/-- What happens to a row without a partner in a joined table. -/
inductive JoinKind where
  /-- The row is dropped. -/
  | inner
  /-- The row stays, with nulls for the columns of the joined table. -/
  | left
  deriving DecidableEq, Repr

/-- Both kinds of join under their names. -/
def JoinKind.named : List (String × JoinKind) := [("inner", .inner), ("left", .left)]

/-- A column of a table that goes by an alias. -/
structure QualifiedColumn where
  aliasName : String
  column : String
  deriving DecidableEq, Repr

/-- A table and the alias it goes by. -/
structure Source where
  table : String
  aliasName : String
  deriving DecidableEq, Repr

/-- A joined table: its `targetColumn` equals the column `partner` of an earlier table. -/
structure Join where
  source : Source
  targetColumn : String
  partner : QualifiedColumn
  deriving DecidableEq, Repr

/-- A select statement. -/
structure Select where
  columns : List QualifiedColumn
  root : Source
  joinKind : JoinKind
  joins : List Join
  conditions : List (QualifiedColumn × Condition)

/-- The column with its alias. -/
def qualify (c : ColumnRef) : QualifiedColumn := ⟨c.aliasName, c.column⟩

/-- The join that leads to a node of a tree. The root has none. -/
def join? (t : JoinTree) (n : JoinNode) : Option Join :=
  n.arrival.map fun arrival =>
    { source := ⟨n.table, n.aliasName⟩
      targetColumn := arrival.edge.targetColumn
      partner := ⟨(t.node arrival.parent).aliasName, arrival.edge.sourceColumn⟩ }

end Sql

namespace Plan

open Sql

/-- The statement that reads what a plan asks for. -/
def select (p : Plan) (joinKind : JoinKind) : Select where
  columns := p.selections.map fun s => qualify s.column
  root := ⟨p.joins.root.table, p.joins.root.aliasName⟩
  joinKind
  joins := p.joins.joined.filterMap (join? p.joins)
  conditions := p.predicates.map fun q => (qualify q.column, q.condition)

end Plan

end DottedQuery
