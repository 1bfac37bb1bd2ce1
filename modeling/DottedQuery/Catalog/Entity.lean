/-
# DottedQuery.Catalog.Entity -- entities, their fields and their relationships

An entity is a kind of record: a name, the table its records lie in, typed fields, and
named relationships to other entities. A relationship joins a column of its own entity with
a column of the target. Fields and relationships are kept under the names that they bear. A
relationship also bears the name that its entity had when it was added: an entity that gets
another name later leaves the sources of its relationships as they are.
-/
import DottedQuery.Dict

namespace DottedQuery

/-! ## Types and cardinalities -/

/-- The declared type of a field. -/
inductive DataType where
  | text
  | integer
  | float
  | boolean
  /-- Dates and times, stored and compared as text or numbers. -/
  | timestamp
  /-- No declared type: any operand is accepted. -/
  | unknown
  deriving DecidableEq, Repr

namespace DataType

/-- Whether smaller and greater make sense for the type. -/
def isOrdered : DataType → Bool
  | boolean => false
  | _ => true

/-- The name of the type in catalogs. -/
def name : DataType → String
  | text => "text"
  | integer => "integer"
  | float => "float"
  | boolean => "boolean"
  | timestamp => "timestamp"
  | unknown => "unknown"

/-- All types under their names. -/
def named : List (String × DataType) :=
  [text, integer, float, boolean, timestamp, unknown].map fun t => (t.name, t)

end DataType

/-- How many target records one source record may join to. -/
inductive Cardinality where
  | one
  | many
  deriving DecidableEq, Repr

namespace Cardinality

/-- The name of the cardinality in catalogs. -/
def name : Cardinality → String
  | one => "one"
  | many => "many"

/-- Both cardinalities under their names. -/
def named : List (String × Cardinality) := [one, many].map fun c => (c.name, c)

end Cardinality

/-! ## Relationships and fields -/

/-- Where a relationship leads and which columns it joins. -/
structure Link where
  target : String
  sourceColumn : String
  targetColumn : String
  cardinality : Cardinality
  deriving DecidableEq, Repr

/-- A named relationship from one entity to another. -/
structure Relationship extends Link where
  source : String
  name : String
  deriving DecidableEq, Repr

/-- A field of an entity. -/
structure Field where
  name : String
  dataType : DataType
  deriving DecidableEq, Repr

/-! ## Entities -/

/-- A kind of record. -/
@[ext]
structure Entity where
  name : String
  /-- The table, if its name is not the entity's. -/
  table : Option String
  fieldDefs : Dict Field
  edges : Dict Relationship
  fields_keyed : fieldDefs.KeyedBy Field.name
  edges_keyed : edges.KeyedBy Relationship.name

namespace Entity

/-- An entity of this name without fields and relationships. -/
def ofName (name : String) : Entity where
  name
  table := none
  fieldDefs := .empty
  edges := .empty
  fields_keyed := Dict.keyedBy_empty _
  edges_keyed := Dict.keyedBy_empty _

/-- Names the table of the entity. -/
def withTable (e : Entity) (table : String) : Entity := { e with table := some table }

/-- Adds a field, or changes the type of one. -/
def addField (e : Entity) (name : String) (dataType : DataType) : Entity :=
  { e with
    fieldDefs := e.fieldDefs.insert name ⟨name, dataType⟩
    fields_keyed := e.fields_keyed.insert rfl }

/-- The relationship that a link is under a name, from the entity as it is called now. -/
def relationshipOf (e : Entity) (name : String) (link : Link) : Relationship :=
  { link with source := e.name, name }

/-- Adds a relationship, or changes one. -/
def addLink (e : Entity) (name : String) (link : Link) : Entity :=
  { e with
    edges := e.edges.insert name (e.relationshipOf name link)
    edges_keyed := e.edges_keyed.insert rfl }

/-- Adds fields one after the other. -/
def addFields (e : Entity) (fields : List (String × DataType)) : Entity :=
  fields.foldl (fun e entry => e.addField entry.1 entry.2) e

/-- Adds relationships one after the other. -/
def addLinks (e : Entity) (links : List (String × Link)) : Entity :=
  links.foldl (fun e entry => e.addLink entry.1 entry.2) e

/-- Adds a relationship to one record: a foreign key of this entity is the target's `id`. -/
def belongsTo (e : Entity) (name target foreignKey : String) : Entity :=
  e.addLink name ⟨target, foreignKey, "id", .one⟩

/-- Adds a relationship to many records: this entity's `id` is a foreign key of the
target. -/
def hasMany (e : Entity) (name target foreignKey : String) : Entity :=
  e.addLink name ⟨target, "id", foreignKey, .many⟩

/-- The table that the records lie in. -/
def tableName (e : Entity) : String := e.table.getD e.name

/-- The field of this name. -/
def field? (e : Entity) (name : String) : Option Field := e.fieldDefs.get? name

/-- The relationship of this name. -/
def relationship? (e : Entity) (name : String) : Option Relationship := e.edges.get? name

/-- All fields in order. -/
def fields (e : Entity) : List Field := e.fieldDefs.values

/-- All relationships in order. -/
def relationships (e : Entity) : List Relationship := e.edges.values

end Entity

end DottedQuery
