/-
# DottedQuery.Catalog.Reading -- catalogs from documents

A catalog file lists entities with their table, fields and relationships, in TOML or in
JSON. What is left out of an entity is empty; a relationship joins the target's `id` and
leads to one record unless it says otherwise.
-/
import DottedQuery.Catalog.Basic
import DottedQuery.Document.Decode
import DottedQuery.Document.Json
import DottedQuery.Document.Toml.Read
import DottedQuery.Files

namespace DottedQuery

open Document (Decoder Node)

namespace Catalog

/-! ## The shape of a catalog -/

/-- Slots of a relationship. -/
structure LinkSlots where
  target : Option String := none
  sourceColumn : Option String := none
  targetColumn : String := "id"
  cardinality : Cardinality := .one

/-- A relationship. -/
def linkDecoder : Decoder Link := fun format node => do
  let fill (name : String) (node : Node) (slots : LinkSlots) :
      Except Document.Error LinkSlots := do
    if name = "target" then return { slots with target := some (← Document.text format node) }
    else if name = "source_column" then
      return { slots with sourceColumn := some (← Document.text format node) }
    else if name = "target_column" then
      return { slots with targetColumn := ← Document.text format node }
    else return { slots with cardinality := ← Document.variant Cardinality.named format node }
  let filling ← Document.struct "RelationshipFile"
    ["target", "source_column", "target_column", "cardinality"] {} fill format node
  return {
    target := ← filling.require "target" LinkSlots.target
    sourceColumn := ← filling.require "source_column" LinkSlots.sourceColumn
    targetColumn := filling.slots.targetColumn
    cardinality := filling.slots.cardinality }

/-- An entity as a catalog file describes it. -/
structure EntityEntry where
  table : Option String := none
  fields : Dict DataType := .empty
  relationships : Dict Link := .empty

/-- The entity that an entry describes, made step by step. -/
def EntityEntry.toEntity (entry : EntityEntry) (name : String) : Entity :=
  let named := Entity.ofName name
  let placed := (entry.table.map named.withTable).getD named
  (placed.addFields entry.fields.entries).addLinks entry.relationships.entries

/-- The description of an entity. -/
def entityDecoder : Decoder EntityEntry := fun format node => do
  let fill (name : String) (node : Node) (slots : EntityEntry) :
      Except Document.Error EntityEntry := do
    if name = "table" then
      return { slots with table := ← Document.optional Document.text format node }
    else if name = "fields" then
      return { slots with fields := ← Document.dict (Document.variant DataType.named) format node }
    else return { slots with relationships := ← Document.dict linkDecoder format node }
  let names := ["table", "fields", "relationships"]
  let filling ← Document.struct "EntityFile" names {} fill format node
  return filling.slots

/-- A whole catalog: its entities under their names. -/
def decoder : Decoder (Dict EntityEntry) := fun format node => do
  let fill (_ : String) (node : Node) (_ : Dict EntityEntry) :
      Except Document.Error (Dict EntityEntry) := Document.dict entityDecoder format node
  let filling ← Document.struct "CatalogFile" ["entities"] .empty fill format node
  return filling.slots

/-- The entities that a catalog file describes, in order. -/
def entitiesOf (entries : Dict EntityEntry) : List Entity :=
  entries.entries.map fun entry => entry.2.toEntity entry.1

end Catalog

/-! ## Reading -/

/-- Why a catalog cannot be had. -/
inductive CatalogError where
  | unreadable (name : String) (cause : FileError)
  | document (format : Document.Format) (cause : Document.Error)
  | build (cause : BuildError)
  /-- The database to be introspected is none. -/
  | database

/-- Why the catalog cannot be had. -/
def CatalogError.message : CatalogError → String
  | unreadable name cause => "Failed to read catalog file '" ++ name ++ "': " ++ cause.message
  | document format cause => "Failed to parse catalog: " ++ cause.describe format
  | build cause => cause.message
  | database => "SQLite error: file is not a database"

namespace Catalog

/-- Reads a catalog out of a document. -/
def ofDocument (d : Document) : Except CatalogError Catalog := do
  let entries ← (d.decode decoder).mapError (.document d.format)
  (build (entitiesOf entries)).mapError .build

/-- Reads a catalog written in TOML. -/
def ofToml (text : String) : Except CatalogError Catalog := ofDocument (Document.Toml.read text)

/-- Reads a catalog written in JSON. -/
def ofJson (text : String) : Except CatalogError Catalog := ofDocument (Document.Json.read text)

/-- Reads a catalog file: JSON if its extension says so, else TOML. -/
def ofFile (files : Files) (name : String) : Except CatalogError Catalog := do
  let text ← (files.readText name).mapError (.unreadable name)
  if fileExtension name = some "json" then ofJson text else ofToml text

end Catalog

end DottedQuery
