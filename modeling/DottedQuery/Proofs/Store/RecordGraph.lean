/-
# DottedQuery.Proofs.Store.RecordGraph -- records and the relationships between them

What a query asks for can be said without joins. The records of a database are the nodes of a graph,
and a record of one entity is linked to a record of another through a relationship between the two
whenever the join columns of the relationship agree. A choice puts a record on every chain of names
with which a path of the query begins, or none; the answer to the query has one row for each choice
that fits the query and meets its filters, and a path reads the record at its own relationships.

`Inner` and `Outer` say which choices fit, for inner and for left joins. There is no tree here and no
order of tables: a record is chosen for a chain of names, and what it has to agree with is the record
at the chain with one name less.
-/
import DottedQuery.Proofs.Plan.Placement
import DottedQuery.Store.Answer

namespace DottedQuery

open Store (Cell Manner Relation Row)

/-- The entity that names of relationships lead to from an entity. -/
def Catalog.walk? (c : Catalog) (e : Entity) : List String → Option Entity
  | [] => some e
  | name :: rest =>
    (e.relationship? name).bind fun edge => (c.entity? edge.target).bind fun target =>
      c.walk? target rest

/-- The records of a database, as the entities of a catalog and from a root entity. -/
structure RecordGraph where
  catalog : Catalog
  root : String
  db : Store.Database

/-- A record for every chain of names, by its position in its table, or none. -/
abbrev Choice := List String → Option Nat

/-! ## Null equals nothing -/

theorem Store.Cell.rank_null (m : Manner) : Cell.null.rank m = none := rfl

theorem Store.Cell.agrees_null (m : Manner) (a : Cell) : a.agrees m .null = false := by
  rw [agrees, rank_null]
  cases a.rank m with
  | none => rfl
  | some rank => rfl

namespace RecordGraph

/-! ## Records of an entity -/

/-- What the database has under the name of the entity's table. -/
def relation? (g : RecordGraph) (e : Entity) : Option Relation :=
  (g.db.relation e.tableName).toOption

/-- The records of an entity. -/
def rows (g : RecordGraph) (e : Entity) : List Row := ((g.relation? e).map (·.rows)).getD []

/-- The place of a column in the entity's table. -/
def position? (g : RecordGraph) (e : Entity) (column : String) : Option Nat :=
  (g.relation? e).bind (·.columnIndex? column)

/-- How the cells of a column compare. -/
def manner (g : RecordGraph) (e : Entity) (column : String) : Manner :=
  match g.relation? e, g.position? e column with
  | some r, some k => r.mannerAt k
  | _, _ => {}

/-- The cell of a record in a column. -/
def cell (g : RecordGraph) (e : Entity) (record : Nat) (column : String) : Cell :=
  match g.position? e column with
  | some k => ((g.rows e).getD record []).getD k .null
  | none => .null

/-- Whether the target's column of one record equals the source's column of another. -/
def linked (g : RecordGraph) (e : Entity) (edge : Relationship) (target : Entity)
    (record partner : Nat) : Bool :=
  (g.cell target partner edge.targetColumn).agrees
    ((g.manner target edge.targetColumn).joined (g.manner e edge.sourceColumn))
    (g.cell e record edge.sourceColumn)

/-! ## Chains of names -/

/-- The entity at a chain of names. -/
def entityAt? (g : RecordGraph) (route : List String) : Option Entity :=
  (g.catalog.entity? g.root).bind fun start => g.catalog.walk? start route

/-- The records of the entity at a chain of names. -/
def rowsAt (g : RecordGraph) (route : List String) : List Row :=
  ((g.entityAt? route).map g.rows).getD []

/-- The field that a path ends with. -/
def fieldAt? (g : RecordGraph) (path : FieldPath) : Option Field :=
  (g.entityAt? path.relationships).bind (·.field? path.field)

/-- How the cells of a column compare in the table at a chain of names. -/
def mannerAt (g : RecordGraph) (route : List String) (column : String) : Manner :=
  ((g.entityAt? route).map fun e => g.manner e column).getD {}

/-- The records that a record at a chain of names is linked to through the relationship of a name. -/
def partners (g : RecordGraph) (route : List String) (name : String) (record : Nat) : List Nat :=
  match (g.entityAt? route).bind (·.relationship? name), g.entityAt? route,
    g.entityAt? (route ++ [name]) with
  | some edge, some e, some target =>
    (List.range (g.rows target).length).filter (g.linked e edge target record)
  | _, _, _ => []

/-! ## Choices -/

/-- The cell of a column in the record chosen for a chain of names. Where no record is chosen, all
columns are null. -/
def cellAt (g : RecordGraph) (σ : Choice) (route : List String) (column : String) : Cell :=
  match g.entityAt? route, σ route with
  | some e, some record => g.cell e record column
  | _, _ => .null

/-- The value that a path reaches. -/
def value (g : RecordGraph) (σ : Choice) (path : FieldPath) : Value :=
  match g.fieldAt? path with
  | some f => (g.cellAt σ path.relationships path.field).toValue f.dataType
  | none => .null

/-- The row of a choice: the values that the requested fields reach, in their order. -/
def row (g : RecordGraph) (spec : QuerySpec) (σ : Choice) : List Value :=
  spec.fields.map fun field => g.value σ field.path

/-- A filter is true of the cell that its path reaches. A filter that is unknown is not. -/
def Holds (g : RecordGraph) (σ : Choice) (filter : FilterSpec) : Prop :=
  ∃ f condition, g.fieldAt? filter.path = some f ∧ filter.condition f.dataType = .ok condition ∧
    condition.truth (g.mannerAt filter.path.relationships filter.path.field)
      (g.cellAt σ filter.path.relationships filter.path.field) = some true

/-- Whether a record is chosen for every chain that the query begins a path with. -/
def complete (spec : QuerySpec) (σ : Choice) : Bool :=
  spec.routes.all fun route => (σ route).isSome

/-- Every chain has a record, and it is linked to the record at the chain with one name less. -/
structure Inner (g : RecordGraph) (spec : QuerySpec) (σ : Choice) : Prop where
  unplanned : ∀ route, route ∉ spec.routes → σ route = none
  root : ∃ record, record < (g.rowsAt []).length ∧ σ [] = some record
  linked : ∀ route name, route ++ [name] ∈ spec.routes → ∃ record partner, σ route = some record ∧
    partner ∈ g.partners route name record ∧ σ (route ++ [name]) = some partner

/-- The root has a record. A chain whose shorter one has a record has one that is linked to it, or
none if there is none; a chain whose shorter one has no record has none. -/
structure Outer (g : RecordGraph) (spec : QuerySpec) (σ : Choice) : Prop where
  unplanned : ∀ route, route ∉ spec.routes → σ route = none
  root : ∃ record, record < (g.rowsAt []).length ∧ σ [] = some record
  linked : ∀ route name record, route ++ [name] ∈ spec.routes → σ route = some record →
    (∃ partner ∈ g.partners route name record, σ (route ++ [name]) = some partner) ∨
      g.partners route name record = [] ∧ σ (route ++ [name]) = none
  absent : ∀ route name, route ++ [name] ∈ spec.routes → σ route = none → σ (route ++ [name]) = none

/-- A choice reaches a record of an entity by walking from a record of the root along a chain of
names, from each record to one that it is linked to. -/
inductive Walks (g : RecordGraph) (σ : Choice) : List String → Entity → Nat → Prop
  | root {e : Entity} {record : Nat} (hentity : g.catalog.entity? g.root = some e)
      (hrecord : record < (g.rows e).length) (hσ : σ [] = some record) : Walks g σ [] e record
  | cross {route : List String} {e target : Entity} {record partner : Nat} {edge : Relationship}
      (hwalk : Walks g σ route e record) (hedge : e.relationship? edge.name = some edge)
      (htarget : g.catalog.entity? edge.target = some target)
      (hpartner : partner < (g.rows target).length)
      (hlinked : g.linked e edge target record partner = true)
      (hσ : σ (route ++ [edge.name]) = some partner) :
      Walks g σ (route ++ [edge.name]) target partner

/-! ## What has to be there -/

/-- The database has the tables and the columns that a query needs: the table at every chain of names
with which a path begins, the fields at the ends of the paths, and the columns of both sides of every
relationship on the way. -/
structure Hosts (g : RecordGraph) (spec : QuerySpec) : Prop where
  tables : ∀ route ∈ spec.routes, ∀ e, g.entityAt? route = some e → (g.relation? e).isSome
  fields : ∀ path ∈ spec.paths, ∀ e, g.entityAt? path.relationships = some e →
    (g.position? e path.field).isSome
  joins : ∀ route name e edge target, route ++ [name] ∈ spec.routes → g.entityAt? route = some e →
    e.relationship? name = some edge → g.entityAt? (route ++ [name]) = some target →
    (g.position? e edge.sourceColumn).isSome ∧ (g.position? target edge.targetColumn).isSome

end RecordGraph

/-- The records of a database as a query sees them. -/
def QuerySpec.graph (spec : QuerySpec) (c : Catalog) (db : Store.Database) : RecordGraph :=
  ⟨c, spec.table, db⟩

end DottedQuery
