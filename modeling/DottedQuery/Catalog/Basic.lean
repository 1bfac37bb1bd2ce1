/-
# DottedQuery.Catalog.Basic -- catalogs and their validation

A catalog is a list of entities, looked up by name; of two entities of one name the first
is found. `Catalog.build` admits only lists in which names are distinct and every
relationship joins columns that are fields on both sides, and names the first violation.
-/
import DottedQuery.Catalog.Entity

namespace DottedQuery

/-- Entities by name. -/
structure Catalog where
  entities : List Entity := []

/-- What can be wrong with a list of entities. -/
inductive BuildError where
  | duplicateEntity (name : String)
  | unknownTarget (entity relationship target : String)
  | unknownJoinColumn (entity relationship table column : String)
  deriving DecidableEq, Repr

/-- What is wrong with the entities. -/
def BuildError.message : BuildError → String
  | duplicateEntity name => "Duplicate entity: '" ++ name ++ "'"
  | unknownTarget entity relationship target =>
    "Relationship '" ++ entity ++ "." ++ relationship ++ "' targets unknown entity '" ++
      target ++ "'"
  | unknownJoinColumn entity relationship table column =>
    "Relationship '" ++ entity ++ "." ++ relationship ++ "' joins on unknown column '" ++
      table ++ "." ++ column ++ "'"

namespace Catalog

/-! ## Looking up -/

/-- The entity of this name. -/
def entity? (c : Catalog) (name : String) : Option Entity :=
  c.entities.find? fun e => e.name = name

/-- A relationship of an entity. -/
def relationship? (c : Catalog) (entity name : String) : Option Relationship :=
  (c.entity? entity).bind (·.relationship? name)

/-- A field of an entity. -/
def field? (c : Catalog) (entity name : String) : Option Field :=
  (c.entity? entity).bind (·.field? name)

/-- Whether an entity has a field of this name. -/
def hasField (c : Catalog) (entity name : String) : Bool := (c.field? entity name).isSome

/-- The table of an entity; an unknown entity stands for a table of its name. -/
def tableOf (c : Catalog) (entity : String) : String :=
  ((c.entity? entity).map Entity.tableName).getD entity

/-! ## Building -/

/-- The first name that occurs a second time. -/
def firstRepeated? : List String → List String → Option String
  | _, [] => none
  | seen, name :: rest =>
    if name ∈ seen then some name else firstRepeated? (name :: seen) rest

/-- Checks that a column of a relationship is a field of the entity it belongs to. -/
def checkColumn (e : Entity) (r : Relationship) (owner : Entity) (column : String) :
    Except BuildError Unit :=
  match owner.field? column with
  | some _ => .ok ()
  | none => .error (.unknownJoinColumn e.name r.name owner.name column)

/-- Checks the target of a relationship and the columns on both sides. -/
def checkRelationship (c : Catalog) (e : Entity) (r : Relationship) : Except BuildError Unit :=
  match c.entity? r.target with
  | none => .error (.unknownTarget e.name r.name r.target)
  | some target => do
    checkColumn e r e r.sourceColumn
    checkColumn e r target r.targetColumn

/-- Checks the relationships of an entity in order. -/
def checkEntity (c : Catalog) (e : Entity) : Except BuildError Unit :=
  e.relationships.forM (c.checkRelationship e)

/-- The catalog of the entities. Repeated names are looked for in the whole list before any
relationship. -/
def build (entities : List Entity) : Except BuildError Catalog :=
  match firstRepeated? [] (entities.map (·.name)) with
  | some name => .error (.duplicateEntity name)
  | none => do
    entities.forM (Catalog.checkEntity ⟨entities⟩)
    return ⟨entities⟩

end Catalog

end DottedQuery
