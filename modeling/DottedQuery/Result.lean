/-
# DottedQuery.Result -- rows as a caller sees them

A store answers a plan with one value per selection in each row. A raw row has the values
under the names of their columns; where two columns have one name, the later value wins in
the place of the earlier. An interpreted row has them under the dotted paths as they were
asked for, and a label goes with each path.
-/
import DottedQuery.Json.Text
import DottedQuery.Naming.Sentence
import DottedQuery.Plan.Basic

namespace DottedQuery

/-- One record of an answer: the values in the order of the selections. -/
abbrev NativeRow := List Value

/-- A row of the wrong width. -/
structure WidthError where
  expected : Nat
  found : Nat
  deriving DecidableEq, Repr

/-- What is wrong with the row. -/
def WidthError.message (e : WidthError) : String :=
  "Storage returned a row with " ++ toString e.found ++ " values, expected " ++
    toString e.expected

/-- Rows under dotted paths, with the label of each path. -/
structure Interpreted where
  data : List (Dict Value)
  labels : Dict String

namespace Selection

/-- The label of a requested field: the one given, or else one made from its name. -/
def labelFor (s : Selection) (stripIdSuffix : Bool) : String :=
  s.label.getD (Naming.humanize s.path.field stripIdSuffix)

end Selection

namespace Plan

/-- The values of a row under keys, one for each selection. -/
def keyed (p : Plan) (key : Selection → String) (row : NativeRow) :
    Except WidthError (Dict Value) :=
  if row.length = p.selections.length then .ok (.ofList ((p.selections.map key).zip row))
  else .error ⟨p.selections.length, row.length⟩

/-- Rows under the names of their columns. -/
def rawRows (p : Plan) (rows : List NativeRow) : Except WidthError (List (Dict Value)) :=
  rows.mapM (p.keyed Selection.native)

/-- The label of each path. -/
def labels (p : Plan) (stripIdSuffix : Bool) : Dict String :=
  .ofList (p.selections.map fun s => (s.key, s.labelFor stripIdSuffix))

/-- Rows under dotted paths. -/
def interpret (p : Plan) (stripIdSuffix : Bool) (rows : List NativeRow) :
    Except WidthError Interpreted := do
  let data ← rows.mapM (p.keyed Selection.key)
  return ⟨data, p.labels stripIdSuffix⟩

end Plan

/-! ## Results as JSON -/

/-- A row as JSON. -/
def rowToJson (row : Dict Value) : Json.Tree := .object (row.map Json.ofValue).entries

/-- Raw rows as JSON. -/
def rawToJson (rows : List (Dict Value)) : Json.Tree := .array (rows.map rowToJson)

/-- Interpreted rows as JSON. -/
def Interpreted.toJson (result : Interpreted) : Json.Tree :=
  .object [("data", .array (result.data.map rowToJson)),
    ("labels", .object (result.labels.map fun label => .leaf (Json.stringText label)).entries)]

end DottedQuery
