/-
# DottedQuery.Store.Operand -- values with what they have from their columns

A value that comes from a column keeps what the column prefers and how its texts compare, until
an operation makes another value of it. Two values compare by what both of them keep.
-/
import DottedQuery.Store.Comparison
import DottedQuery.Store.JsonTree.Call

namespace DottedQuery.Store

/-! ## Operands -/

/-- The value of an expression, and what it has from its column. -/
structure Operand where
  cell : Cell
  affinity : Option Affinity := none
  collation : Option Collation := none
  /-- Whether the expression says itself how texts compare. -/
  chosen : Bool := false
  /-- Whether the cell is known to be a JSON document. -/
  isJson : Bool := false

namespace Operand

/-- How two operands compare. What only one of them prefers counts for both. -/
def manner (a b : Operand) : Manner where
  affinity :=
    match a.affinity, b.affinity with
    | some x, some y => if x.isNumeric || y.isNumeric then .numeric else .any
    | some x, none | none, some x => x
    | none, none => .any
  collation :=
    if !a.chosen && b.chosen then b.collation.getD .binary
    else (a.collation <|> b.collation).getD .binary

/-- The truth of a comparison under a manner. -/
def compare (m : Manner) (comparison : Comparison) (a b : Operand) : Option Bool := do
  return comparison.holds (← a.cell.rank m) (← b.cell.rank m)

/-- Whether two operands are equal, or both null. -/
def same (m : Manner) (a b : Operand) : Bool := a.cell.rank m = b.cell.rank m

/-- Whether an operand is one of several, as far as that is known. -/
def among (a : Operand) (others : List Operand) : Option Bool :=
  let m : Manner := ⟨a.affinity.getD .any, a.collation.getD .binary⟩
  let found := others.map (compare m .equal a)
  if found.contains (some true) then some true
  else if found.contains none then none
  else some false

/-- The greatest or the least operand; null if one is. Of equal operands the greatest is the
first, the least the last. -/
def extreme (greatest : Bool) (operands : List Operand) : Cell :=
  let m : Manner := { collation := (operands.findSome? (·.collation)).getD .binary }
  let best (a b : Operand) : Operand :=
    if (compare m .less a b = some true) = greatest then b else a
  match operands with
  | [] => .null
  | first :: rest =>
    if operands.any fun a => (a.cell.rank m).isNone then .null else (rest.foldl best first).cell

/-- The cell, and whether it is known to be a JSON document. -/
def marked (a : Operand) : MarkedCell := ⟨a.cell, a.isJson⟩

end Operand

end DottedQuery.Store
