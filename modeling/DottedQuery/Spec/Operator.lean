/-
# DottedQuery.Spec.Operator -- filter operators and their names
-/

namespace DottedQuery

/-- A filter operator. -/
inductive Operator where
  | exactly
  | not
  | lessThan
  | greaterThan
  /-- Substring test on text. -/
  | contains
  /-- `true` asks for null, `false` for anything else. -/
  | null
  deriving DecidableEq, Repr

namespace Operator

/-- All operators. -/
def all : List Operator := [exactly, not, lessThan, greaterThan, contains, null]

/-- The name of the operator in a query. -/
def name : Operator → String
  | exactly => "exactly"
  | not => "not"
  | lessThan => "less_than"
  | greaterThan => "greater_than"
  | contains => "contains"
  | null => "null"

/-- The operator with this name. -/
def ofName? (name : String) : Option Operator := all.find? (·.name = name)

end Operator

end DottedQuery
