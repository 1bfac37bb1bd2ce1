/-
# DottedQuery.Plan.Basic -- the plan of a query

A plan says which tables are joined, which column each requested field is, and which
condition each filter puts on which column. Planning goes through the fields and then through
the filters: it resolves the path of one, grows the tree of joins along it, and goes on with
the next one on the tree that this leaves. It stops at the first fault.
-/
import DottedQuery.Plan.Condition
import DottedQuery.Plan.JoinTree
import DottedQuery.Plan.Resolution

namespace DottedQuery

/-! ## Plans -/

/-- A column of a node of the join tree. -/
structure ColumnRef where
  node : Nat
  /-- The alias of the table that the column belongs to. -/
  aliasName : String
  column : String
  deriving DecidableEq, Repr

/-- A column of this node. -/
def ColumnRef.ofNode (n : JoinNode) (column : String) : ColumnRef := ⟨n.id, n.aliasName, column⟩

/-- A requested field and the column it is. -/
structure Selection where
  path : FieldPath
  column : ColumnRef
  dataType : DataType
  label : Option String

namespace Selection

/-- The dotted text of the path. -/
def key (s : Selection) : String := s.path.key

/-- The name of the column in its table. -/
def native (s : Selection) : String := s.column.column

end Selection

/-- A filter as a condition on a column. -/
structure Predicate where
  path : FieldPath
  column : ColumnRef
  condition : Condition

/-- What is read from which tables. -/
structure Plan where
  joins : JoinTree
  selections : List Selection
  predicates : List Predicate

/-! ## Planning -/

namespace Catalog

/-- Joins the tables along a resolved path and gives the column at its end. -/
def place (c : Catalog) (t : JoinTree) (r : Resolution) : JoinTree × ColumnRef :=
  let (t, id) := Id.run (t.join (fun entity => pure (c.tableOf entity)) r.hops)
  (t, .ofNode (t.node id) r.field.name)

/-- Joins the path of a requested field to the tree and selects the column at its end. -/
def planField (c : Catalog) (root : String) (t : JoinTree) (field : FieldSpec) :
    Except PlanError (JoinTree × Selection) := do
  let r ← c.resolve root field.path
  let (t, column) := c.place t r
  return (t, ⟨r.path, column, r.field.dataType, field.label⟩)

/-- Joins the path of a filter to the tree and puts its condition on the column at its end. -/
def planFilter (c : Catalog) (root : String) (t : JoinTree) (filter : FilterSpec) :
    Except PlanError (JoinTree × Predicate) := do
  let r ← c.resolve root filter.path
  let (t, column) := c.place t r
  return (t, ⟨r.path, column, ← filter.condition r.field.dataType⟩)

/-- Plans entries one after the other, each on the tree that the ones before it have left. -/
def planEach {α β : Type} (step : JoinTree → α → Except PlanError (JoinTree × β))
    (t : JoinTree) : List α → Except PlanError (JoinTree × List β)
  | [] => .ok (t, [])
  | entry :: rest => do
    let (t, result) ← step t entry
    let (t, results) ← planEach step t rest
    return (t, result :: results)

/-- The plan of a query. -/
def plan (c : Catalog) (spec : QuerySpec) : Except PlanError Plan :=
  if spec.fields.isEmpty then .error .noFields
  else do
    let root ← c.requireEntity spec.table
    let t := JoinTree.ofRoot root.name root.tableName
    let (t, selections) ← planEach (c.planField spec.table) t spec.fields
    let (t, predicates) ← planEach (c.planFilter spec.table) t spec.filters
    return { joins := t, selections, predicates }

end Catalog

end DottedQuery
