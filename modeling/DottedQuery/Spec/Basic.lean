/-
# DottedQuery.Spec.Basic -- query specifications

A query names a root table, the fields to return and the filters that have to hold. What a
document says is first a `Draft`: dictionaries of texts in document order. `Draft.validate`
turns it into a `QuerySpec` or names the first thing wrong with it, in the order table,
fields, filter entries.
-/
import DottedQuery.Dict
import DottedQuery.Spec.Operator
import DottedQuery.Spec.Path
import DottedQuery.Text.Blank
import DottedQuery.Value

namespace DottedQuery

/-! ## Valid specifications -/

/-- A requested output field. -/
structure FieldSpec where
  path : FieldPath
  /-- A label that wins over the one derived from the field's name. -/
  label : Option String

/-- One filter condition. -/
structure FilterSpec where
  path : FieldPath
  operator : Operator
  operand : Value

/-- A parsed and checked query. -/
structure QuerySpec where
  /-- The root entity. -/
  table : String
  /-- The requested fields, in order. -/
  fields : List FieldSpec
  /-- The filters, in order; all of them must hold. -/
  filters : List FilterSpec

/-! ## Drafts -/

/-- What a document says before it is checked. An entry of `filter` maps paths to operators
and operators to operands. -/
structure Draft where
  table : String
  fields : Dict (Option String) := .empty
  filter : List (Dict (Dict Value)) := []

/-- What can be wrong with a draft. -/
inductive DraftError where
  | emptyTable
  | invalidPath (e : InvalidPath)
  /-- A filter entry that does not name exactly one path. -/
  | entryPaths (index found : Nat)
  | noOperator (path : String)
  | unsupportedOperator (path operator : String)
  deriving DecidableEq, Repr

/-- What is wrong with the draft. -/
def DraftError.message : DraftError → String
  | emptyTable => "'table' must not be empty"
  | invalidPath e => e.message
  | entryPaths index found =>
    "Filter entry " ++ toString index ++ " must name exactly one field path, found " ++
      toString found
  | noOperator path => "Filter on '" ++ path ++ "' has no operator"
  | unsupportedOperator path operator =>
    "Unsupported operator '" ++ operator ++ "' in filter on '" ++ path ++ "'"

namespace Draft

/-- Reads a path of the draft. -/
def path (s : String) : Except DraftError FieldPath :=
  (FieldPath.parse s).mapError .invalidPath

/-- A requested field: its path has to be well formed. -/
def field (entry : String × Option String) : Except DraftError FieldSpec := do
  return ⟨← path entry.1, entry.2⟩

/-- One condition of a filter entry: its operator has to be known. -/
def condition (key : String) (path : FieldPath) (entry : String × Value) :
    Except DraftError FilterSpec :=
  match Operator.ofName? entry.1 with
  | some operator => .ok ⟨path, operator, entry.2⟩
  | none => .error (.unsupportedOperator key entry.1)

/-- A filter entry: one path, well formed, with at least one known operator. -/
def entry (index : Nat) (entry : Dict (Dict Value)) : Except DraftError (List FilterSpec) :=
  match entry.entries with
  | [(key, conditions)] => do
    let path ← path key
    if conditions.entries.isEmpty then .error (.noOperator key)
    else conditions.entries.mapM (condition key path)
  | entries => .error (.entryPaths index entries.length)

/-- The filter entries from position `index` on, their conditions in document order. -/
def filtersFrom (index : Nat) : List (Dict (Dict Value)) → Except DraftError (List FilterSpec)
  | [] => .ok []
  | first :: rest => do return (← entry index first) ++ (← filtersFrom (index + 1) rest)

/-- The query that the draft describes, or the first thing wrong with it. -/
def validate (d : Draft) : Except DraftError QuerySpec :=
  let table := Text.trimBlanks d.table
  if table.isEmpty then .error .emptyTable
  else do
    let fields ← d.fields.entries.mapM field
    let filters ← filtersFrom 0 d.filter
    return ⟨table, fields, filters⟩

end Draft

end DottedQuery
