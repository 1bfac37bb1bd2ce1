/-
# DottedQuery.Store.Answer -- the rows that answer a statement

A statement is first prepared: its tables and columns are looked up in the database, once
for all rows. Its answer is then made of assignments, which give every table of the
statement one of its rows, or none where a left join found no partner. The tables are gone
through in their order, and the rows of each in theirs.

Of the limits that the database puts on a statement only that on its tables is modelled
(`tableLimit`). A statement here is one that keeps the others, which by default are 2000 result
columns, expressions of depth 1000 (the conditions of a statement are one expression, as deep as
they are many), 32766 operands and a billion bytes of text; the database refuses a statement beyond
them, whatever the rows are.
-/
import DottedQuery.Store.Comparison
import DottedQuery.Store.Sources

namespace DottedQuery.Store

open Sql (Join JoinKind QualifiedColumn Select Source)

/-! ## Preparing -/

/-- Relations under their aliases, in the order of the statement. -/
abbrev Scope := List (String × Relation)

/-- A column: the position of its table in the statement, its own in the table, and how its
cells compare. -/
structure Slot where
  table : Nat
  column : Nat
  manner : Manner
  deriving DecidableEq, Repr

/-- A joined table: its rows, its join column, and the column that has to be equal to it. -/
structure PreparedJoin where
  rows : List Row
  target : Slot
  partner : Slot

/-- A statement whose names are looked up. -/
structure Prepared where
  /-- The tables in the order of the statement. -/
  relations : List Relation
  root : List Row
  joinKind : JoinKind
  joins : List PreparedJoin
  conditions : List (Slot × Condition)
  columns : List Slot

/-- How many tables a statement may have. It is the one limit on statements that is modelled: the
tree of a query of ordinary size can meet it, with a join for every prefix of a path. -/
def tableLimit : Nat := 64

/-- A column of the table at some position of the statement. -/
def slotIn (table : Nat) (r : Relation) (column : QualifiedColumn) : Except StoreError Slot :=
  match r.columnIndex? column.column with
  | some i => .ok ⟨table, i, r.mannerAt i⟩
  | none => .error (.noColumn column)

/-- Looks a column up. -/
def Scope.slot (scope : Scope) (column : QualifiedColumn) : Except StoreError Slot :=
  match scope.findIdx? fun entry => entry.1 = column.aliasName, scope.lookup column.aliasName with
  | some i, some relation => slotIn i relation column
  | _, _ => .error (.noColumn column)

/-- Looks up a joined table. Its partner has to be a table before it. -/
def prepareJoin (db : Database) (scope : Scope) (j : Join) :
    Except StoreError (Scope × PreparedJoin) := do
  let relation ← db.relation j.source.table
  let target ← slotIn scope.length relation ⟨j.source.aliasName, j.targetColumn⟩
  let partner ← scope.slot j.partner
  return (scope ++ [(j.source.aliasName, relation)], ⟨relation.rows, target, partner⟩)

/-- Looks up joined tables one after the other. -/
def prepareJoins (db : Database) (scope : Scope) :
    List Join → Except StoreError (Scope × List PreparedJoin)
  | [] => .ok (scope, [])
  | j :: rest => do
    let (scope, prepared) ← prepareJoin db scope j
    let (scope, others) ← prepareJoins db scope rest
    return (scope, prepared :: others)

/-- Looks up a column that a condition is put on. -/
def prepareCondition (scope : Scope) (entry : QualifiedColumn × Condition) :
    Except StoreError (Slot × Condition) := do
  return (← scope.slot entry.1, entry.2)

/-- Looks up all names of a statement, which is taken to keep all limits but that on tables. -/
def prepare (db : Database) (s : Select) : Except StoreError Prepared :=
  if tableLimit < s.joins.length + 1 then .error .tooManyTables
  else do
    let root ← db.relation s.root.table
    let (scope, joins) ← prepareJoins db [(s.root.aliasName, root)] s.joins
    let columns ← s.columns.mapM scope.slot
    let conditions ← s.conditions.mapM (prepareCondition scope)
    return ⟨scope.map (·.2), root.rows, s.joinKind, joins, conditions, columns⟩

/-! ## Assignments -/

/-- A row for each table so far, or none where a left join found no partner. -/
abbrev Assignment := List (Option Row)

/-- The cell of a column under an assignment. A table without row has only nulls. -/
def Assignment.cell (a : Assignment) (s : Slot) : Cell :=
  match a[s.table]? with
  | some (some row) => row.getD s.column .null
  | _ => .null

/-- The rows of a joined table that match an assignment. -/
def PreparedJoin.partners (j : PreparedJoin) (a : Assignment) : List Row :=
  j.rows.filter fun row =>
    (row.getD j.target.column .null).agrees (j.target.manner.joined j.partner.manner)
      (a.cell j.partner)

/-- Extends an assignment to a joined table in all ways. -/
def PreparedJoin.extend (kind : JoinKind) (j : PreparedJoin) (a : Assignment) :
    List Assignment :=
  match kind, j.partners a with
  | .left, [] => [a ++ [none]]
  | _, rows => rows.map fun row => a ++ [some row]

namespace Prepared

/-- All assignments, before any condition. -/
def assignments (p : Prepared) : List Assignment :=
  p.joins.foldl (fun found j => found.flatMap (j.extend p.joinKind)) (p.root.map ([some ·]))

/-- Whether all conditions hold under an assignment. -/
def admits (p : Prepared) (a : Assignment) : Bool :=
  p.conditions.all fun entry => entry.2.holds entry.1.manner (a.cell entry.1)

/-- The answer: the columns of the assignments under which the conditions hold. -/
def rows (p : Prepared) : List Row :=
  (p.assignments.filter p.admits).map fun a => p.columns.map a.cell

end Prepared

/-- The answer to a statement. -/
def Database.answer (db : Database) (s : Select) : Except StoreError (List Row) := do
  return (← prepare db s).rows

/-- Rows of cells as values of the selected fields. -/
def valuesOf (p : Plan) (rows : List Row) : List (List Value) :=
  let types := p.selections.map (·.dataType)
  rows.map fun row => types.zipWith Cell.toValue row

/-- The answer to a plan. -/
def Database.execute (db : Database) (joinKind : JoinKind) (p : Plan) :
    Except StoreError (List (List Value)) := do
  return valuesOf p (← db.answer (p.select joinKind))

end DottedQuery.Store
