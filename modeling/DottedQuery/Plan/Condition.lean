/-
# DottedQuery.Plan.Condition -- conditions on a column

An operator and its operand become a condition on a column if they suit the declared type
of the field. Two operands are changed: `exactly` and `not` on a text field compare with
the text of any scalar, so `5` finds the text `5`. Null is never an operand of a comparison.
-/
import DottedQuery.Catalog.Entity
import DottedQuery.Plan.Error

namespace DottedQuery

/-- A comparison with an operand. -/
inductive Comparison where
  | equal
  | different
  | less
  | greater
  deriving DecidableEq, Repr

/-- A condition on a column. -/
inductive Condition where
  | compare (comparison : Comparison) (operand : Value)
  /-- The column's text has this part, letter for letter. -/
  | contains (part : String)
  | isNull
  | isNotNull
  deriving Repr

namespace Condition

/-- The operand, if the condition has one. -/
def operand? : Condition → Option Value
  | compare _ operand => some operand
  | contains part => some (.text part)
  | isNull | isNotNull => none

/-! ## Operands that suit a type -/

/-- The operand of `exactly` and `not` on a field of this type. -/
def equalityOperand : DataType → Value → Except Expectation Value
  | _, .null => .error .notNull
  | .unknown, v => .ok v
  | .text, v => .ok (.text (v.stringify.getD ""))
  | .integer, .int n => .ok (.int n)
  | .integer, _ => .error .integer
  | .float, .int n => .ok (.int n)
  | .float, .float x => .ok (.float x)
  | .float, _ => .error .number
  | .boolean, .bool b => .ok (.bool b)
  | .boolean, _ => .error .boolean
  | .timestamp, .text s => .ok (.text s)
  | .timestamp, .int n => .ok (.int n)
  | .timestamp, _ => .error .timestamp

/-- The operand of `less_than` and `greater_than` on a field of this type. -/
def orderedOperand (dataType : DataType) (operand : Value) : Except Expectation Value :=
  if !dataType.isOrdered then .error .orderedField
  else match dataType, operand with
    | _, .null | _, .bool _ => .error .numberOrText
    | .integer, .int n | .float, .int n => .ok (.int n)
    | .integer, .float x | .float, .float x => .ok (.float x)
    | .integer, _ | .float, _ => .error .number
    | .text, .text s => .ok (.text s)
    | .text, _ => .error .text
    | .timestamp, .text s => .ok (.text s)
    | .timestamp, .int n => .ok (.int n)
    | .timestamp, _ => .error .timestamp
    | _, v => .ok v

/-- The part that `contains` looks for in a field of this type. -/
def partOperand : DataType → Value → Except Expectation String
  | .text, .text s | .unknown, .text s => .ok s
  | .text, _ | .unknown, _ => .error .text
  | _, _ => .error .textField

/-- The condition that an operator and its operand put on a field of this type. -/
def ofOperator (operator : Operator) (operand : Value) (dataType : DataType) :
    Except Expectation Condition :=
  match operator, operand with
  | _, .bytes _ => .error .scalar
  | .null, .bool b => .ok (if b then isNull else isNotNull)
  | .null, _ => .error .boolean
  | .exactly, v => (equalityOperand dataType v).map (compare .equal)
  | .not, v => (equalityOperand dataType v).map (compare .different)
  | .lessThan, v => (orderedOperand dataType v).map (compare .less)
  | .greaterThan, v => (orderedOperand dataType v).map (compare .greater)
  | .contains, v => (partOperand dataType v).map contains

end Condition

/-- The condition that a filter puts on a field of this type. -/
def FilterSpec.condition (filter : FilterSpec) (dataType : DataType) :
    Except PlanError Condition :=
  (Condition.ofOperator filter.operator filter.operand dataType).mapError fun expected =>
    .operandMismatch filter.path filter.operator expected filter.operand

end DottedQuery
