/-
# DottedQuery.Plan.Resolution -- field paths in a catalog

A path is walked from a root entity: every segment but the last names a relationship of the
entity reached so far, the last one names a field of the entity reached at the end. The walk
takes as many steps as the path has segments, also where relationships lead in a circle.
-/
import DottedQuery.Catalog.Basic
import DottedQuery.Plan.Error

namespace DottedQuery

/-- A path that was followed: the relationships crossed in order, and the field with the
entity it belongs to. -/
structure Resolution where
  path : FieldPath
  hops : List Relationship
  entity : Entity
  field : Field

namespace Catalog

/-- The entity of this name, which has to be known. -/
def requireEntity (c : Catalog) (name : String) : Except PlanError Entity :=
  match c.entity? name with
  | some entity => .ok entity
  | none => .error (.unknownEntity name)

/-- Follows relationships by name from an entity. The path is the one to blame. -/
def follow (c : Catalog) (path : FieldPath) (entity : Entity) :
    List String → Except PlanError (List Relationship × Entity)
  | [] => .ok ([], entity)
  | name :: rest =>
    match c.relationship? entity.name name with
    | none => .error (.unknownRelationship path entity.name name)
    | some edge => do
      let target ← c.requireEntity edge.target
      let (hops, last) ← c.follow path target rest
      return (edge :: hops, last)

/-- Follows a path from the root entity of this name. -/
def resolve (c : Catalog) (root : String) (path : FieldPath) : Except PlanError Resolution := do
  let start ← c.requireEntity root
  let (hops, entity) ← c.follow path start path.relationships
  match c.field? entity.name path.field with
  | some field => return ⟨path, hops, entity, field⟩
  | none => .error (.unknownField path entity.name path.field)

end Catalog

end DottedQuery
