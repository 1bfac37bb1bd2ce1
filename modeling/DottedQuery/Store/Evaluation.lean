/-
# DottedQuery.Store.Evaluation -- the values of expressions

Every operation is worked out from cells. A truth is an integer, and null where it is not
known. Where a number is asked for, a text is the number that its beginning spells. Operands
are worked out only when they are asked for: a choice does not ask for what it does not choose,
and a condition not for what comes after it is settled, so that what is wrong there does not
show.
-/
import DottedQuery.Store.Expression
import DottedQuery.Store.Function

namespace DottedQuery.Store

namespace Operand

/-! ## Operations -/

/-- The value of an operation that asks for all its operands. -/
def plainValue (operation : Operation) (operands : List Operand) : Cell :=
  match operation, operands with
  | .negate, [a] => Cell.subtract (.int 0) a.cell
  | .keep, [a] | .collate _, [a] => a.cell
  | .invert, [a] => Cell.bitwise (fun n _ => -1 - n) a.cell a.cell
  | .not, [a] => .ofTruth (a.cell.truth.map (!·))
  | .and, [a, b] =>
    .ofTruth <|
      match a.cell.truth, b.cell.truth with
      | some false, _ | _, some false => some false
      | some true, some true => some true
      | _, _ => none
  | .or, [a, b] =>
    .ofTruth <|
      match a.cell.truth, b.cell.truth with
      | some true, _ | _, some true => some true
      | some false, some false => some false
      | _, _ => none
  | .compare comparison, [a, b] => .ofTruth (compare (a.manner b) comparison a b)
  | .same, [a, b] => .ofTruth (some (same (a.manner b) a b))
  | .truth expected, [a] => .ofTruth (some (a.cell.truth = some expected))
  | .add, [a, b] => Cell.add a.cell b.cell
  | .subtract, [a, b] => Cell.subtract a.cell b.cell
  | .multiply, [a, b] => Cell.multiply a.cell b.cell
  | .divide, [a, b] => Cell.divide a.cell b.cell
  | .remainder, [a, b] => Cell.remainder a.cell b.cell
  | .join, [a, b] => Cell.join a.cell b.cell
  | .bitAnd, [a, b] => Cell.bitwise (· &&& ·) a.cell b.cell
  | .bitOr, [a, b] => Cell.bitwise (· ||| ·) a.cell b.cell
  | .shiftLeft, [a, b] => Cell.bitwise (fun m n => Cell.shifted m n.toInt) a.cell b.cell
  | .shiftRight, [a, b] => Cell.bitwise (fun m n => Cell.shifted m (-n.toInt)) a.cell b.cell
  | .cast affinity, [a] => a.cell.cast affinity
  | .among, a :: others => .ofTruth (among a others)
  | _, _ => .null

/-- The value of an operation that asks for all its operands. -/
def value (operation : Operation) (operands : List Operand) : Worked MarkedCell :=
  match operation, operands with
  | .call name, operands => Function.call (Text.asciiLower name.name) operands
  | .keep, [a] | .collate _, [a] => .ok a.marked
  | operation, operands => .ok ⟨plainValue operation operands, false⟩

/-- The value of an operation with what it keeps from its operands. -/
def made (operation : Operation) (operands : List Operand) (m : MarkedCell) : Operand :=
  match operation, operands with
  | .collate collation, [a] => ⟨m.cell, a.affinity, some collation, true, m.isJson⟩
  | .keep, [a] => ⟨m.cell, none, a.collation, a.chosen, m.isJson⟩
  | .cast affinity, [a] => ⟨m.cell, some affinity, a.collation, a.chosen, m.isJson⟩
  | _, _ =>
    match operands.find? (·.chosen) with
    | some a => ⟨m.cell, none, a.collation, true, m.isJson⟩
    | none => ⟨m.cell, none, none, false, m.isJson⟩

end Operand

/-! ## Operands that may not be asked for -/

/-- An expression that is worked out when it is asked for. -/
structure Deferred where
  /-- How texts compare, if the expression itself says so. -/
  collation : Option Collation
  operand : Unit → Worked Operand
  /-- Whether it holds as a condition; what is not known counts as it is told. -/
  holds : Bool → Worked Bool

namespace Deferred

/-- An operand that is known. -/
def ofOperand (a : Operand) : Deferred where
  collation := none
  operand _ := .ok a
  holds unknown := .ok (a.cell.truth.getD unknown)

/-- The value of the first condition that holds, or the last value. -/
def choose (holds : Deferred → Worked Bool) : List Deferred → Worked MarkedCell
  | [] => .ok ⟨.null, false⟩
  | [last] => do return (← last.operand ()).marked
  | condition :: value :: rest => do
    if ← holds condition then return (← value.operand ()).marked else choose holds rest

/-- The first value that is not null. -/
def firstKnown : List Deferred → Worked MarkedCell
  | [] => .ok ⟨.null, false⟩
  | d :: rest => do
    let a ← d.operand ()
    if a.cell matches .null then firstKnown rest else return a.marked

/-- Whether two operands are equal. -/
def isEqual (a b : Operand) : Bool := a.compare (a.manner b) .equal b = some true

/-- The value of an operation that may leave some operands alone, if it is one. -/
def chosen? (operation : Operation) (parts : List Deferred) : Option (Worked MarkedCell) :=
  match operation, parts with
  | .choose true, base :: cases => some do
    let a ← base.operand ()
    choose (fun d => do return isEqual a (← d.operand ())) cases
  | .choose false, cases => some (choose (·.holds false) cases)
  | .call name, parts =>
    match Text.asciiLower name.name with
    | "coalesce" | "ifnull" => some (firstKnown parts)
    | "iif" => some (choose (·.holds false) parts)
    | _ => none
  | _, _ => none

/-- What an operation gives. -/
def result (operation : Operation) (parts : List Deferred) : Worked Operand :=
  match chosen? operation parts with
  | some value => do
    let m ← value
    let collation := parts.findSome? (·.collation)
    return ⟨m.cell, none, collation, collation.isSome, m.isJson⟩
  | none => do
    let operands ← parts.mapM fun d => d.operand ()
    return Operand.made operation operands (← Operand.value operation operands)

/-- Whether an operation holds as a condition. -/
def condition (operation : Operation) (parts : List Deferred) (unknown : Bool) : Worked Bool :=
  match operation, parts with
  | .and, [a, b] => do if ← a.holds unknown then b.holds unknown else return false
  | .or, [a, b] => do if ← a.holds unknown then return true else b.holds unknown
  | .not, [a] => do return !(← a.holds !unknown)
  | .truth true, [a] => a.holds false
  | .truth false, [a] => do return !(← a.holds true)
  | operation, parts => do return ((← result operation parts).cell.truth).getD unknown

/-- An operation on expressions. -/
def ofOperation (operation : Operation) (parts : List Deferred) : Deferred where
  collation :=
    match operation with
    | .collate collation => some collation
    | _ => parts.findSome? (·.collation)
  operand _ := result operation parts
  holds unknown := condition operation parts unknown

end Deferred

/-! ## Expressions -/

namespace Expression

mutual
/-- What an expression gives, where it is known what the columns give. -/
def deferred (columns : Nat → Operand) : Expression → Deferred
  | cell c => .ofOperand { cell := c }
  | truth b => .ofOperand { cell := .ofTruth (some b) }
  | column position => .ofOperand (columns position)
  | name _ _ => .ofOperand { cell := .null }
  | barred _ _ => .ofOperand { cell := .null }
  | apply operation operands => .ofOperation operation (deferredAll columns operands)

/-- What several expressions give. -/
def deferredAll (columns : Nat → Operand) : List Expression → List Deferred
  | [] => []
  | e :: rest => deferred columns e :: deferredAll columns rest
end

/-- The value of an expression, where it is known what the columns give. -/
def value (columns : Nat → Operand) (e : Expression) : Worked Cell := do
  return (← (e.deferred columns).operand ()).cell

/-- Whether an expression holds as a condition. What is not known counts as it is told. -/
def holds (columns : Nat → Operand) (unknown : Bool) (e : Expression) : Worked Bool :=
  (e.deferred columns).holds unknown

/-- The value of an expression in which no column occurs. -/
def constant (e : Expression) : Worked Cell := e.value fun _ => { cell := .null }

end Expression

end DottedQuery.Store
