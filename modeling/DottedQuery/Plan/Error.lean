/-
# DottedQuery.Plan.Error -- why a query has no plan

A query is planned against a catalog. It fails as a whole: nothing is requested, a name is
unknown, or an operand does not suit the operator and the field.
-/
import DottedQuery.Spec.Basic

namespace DottedQuery

/-- What an operand, or the field it is compared with, should have been. -/
inductive Expectation where
  | scalar
  | notNull
  | boolean
  | integer
  | number
  | text
  | numberOrText
  | timestamp
  | orderedField
  | textField
  deriving DecidableEq, Repr

/-- The expectation in words. -/
def Expectation.words : Expectation → String
  | scalar => "a scalar value"
  | notNull => "a non-null value (use 'null: true')"
  | boolean => "a boolean"
  | integer => "an integer"
  | number => "a number"
  | text => "a string"
  | numberOrText => "a number or string"
  | timestamp => "a timestamp string or integer"
  | orderedField => "an ordered field (number, text or timestamp)"
  | textField => "a text field"

/-- What can be wrong with a query. -/
inductive PlanError where
  | noFields
  | unknownEntity (entity : String)
  /-- A segment of the path is no relationship of the entity reached so far. -/
  | unknownRelationship (path : FieldPath) (entity relationship : String)
  /-- The last segment of the path is no field of the entity reached. -/
  | unknownField (path : FieldPath) (entity field : String)
  | operandMismatch (path : FieldPath) (operator : Operator) (expected : Expectation)
      (found : Value)

/-- What is wrong with the query. -/
def PlanError.message : PlanError → String
  | noFields => "No fields requested. A query needs at least one field."
  | unknownEntity entity => "Unknown entity: '" ++ entity ++ "'"
  | unknownRelationship path entity relationship =>
    "Unknown relationship '" ++ relationship ++ "' on entity '" ++ entity ++ "' in path '" ++
      path.key ++ "'"
  | unknownField path entity field =>
    "Unknown field '" ++ field ++ "' on entity '" ++ entity ++ "' in path '" ++ path.key ++ "'"
  | operandMismatch path operator expected found =>
    "Operator '" ++ operator.name ++ "' on '" ++ path.key ++ "' expects " ++ expected.words ++
      ", got " ++ found.typeName

end DottedQuery
