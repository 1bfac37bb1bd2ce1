/-
# DottedQuery.Spec.Reading -- query specifications from documents

A specification is written in YAML or JSON as a structure with a table, fields with
optional labels, and a list of filter entries. Reading decodes it into a draft and checks
the draft.
-/
import DottedQuery.Document.Decode
import DottedQuery.Document.Json
import DottedQuery.Document.Yaml.Read
import DottedQuery.Spec.Basic
import DottedQuery.Files

namespace DottedQuery

open Document (Decoder)

/-! ## The shape of a specification -/

namespace Draft

/-- Slots of the specification. -/
structure Slots where
  table : Option String := none
  fields : Option (Dict (Option String)) := none
  filter : Option (List (Dict (Dict Value))) := none

/-- The options of a requested field: a label. -/
def fieldOptions : Decoder (Option String) := fun format node => do
  let filling ← Document.struct "RawFieldOptions" ["label"] (none : Option String)
    (fun _ node _ => Document.optional Document.text format node) format node
  return filling.slots

/-- The requested fields; one without options has no label. -/
def fieldTable : Decoder (Dict (Option String)) := fun format node => do
  let table ← Document.dict (Document.optional fieldOptions) format node
  return table.map Option.join

/-- A filter entry; a path without conditions has none. -/
def filterEntry : Decoder (Dict (Dict Value)) := fun format node => do
  let entry ← Document.dict (Document.optional (Document.dict Document.value)) format node
  return entry.map (·.getD .empty)

/-- A whole specification. Only the table is required. -/
def decode : Decoder Draft := fun format node => do
  let fill (name : String) (node : Document.Node) (slots : Slots) :
      Except Document.Error Slots := do
    if name = "table" then return { slots with table := some (← Document.text format node) }
    else if name = "fields" then
      return { slots with fields := ← Document.optional fieldTable format node }
    else
      return { slots with filter := ← Document.optional (Document.list filterEntry) format node }
  let filling ← Document.struct "RawSpec" ["table", "fields", "filter"] {} fill format node
  return {
    table := ← filling.require "table" Slots.table
    fields := filling.slots.fields.getD .empty
    filter := filling.slots.filter.getD [] }

end Draft

/-! ## Reading -/

/-- Why a specification cannot be read. -/
inductive SpecError where
  | unreadable (name : String) (cause : FileError)
  | document (format : Document.Format) (cause : Document.Error)
  | draft (cause : DraftError)

/-- Why the specification cannot be read. -/
def SpecError.message : SpecError → String
  | unreadable name cause => "Parse error: Failed to read '" ++ name ++ "': " ++ cause.message
  | document format cause => "Parse error: " ++ cause.describe format
  | draft cause@(.unsupportedOperator _ _) => cause.message
  | draft cause => "Parse error: " ++ cause.message

namespace QuerySpec

/-- Reads a specification out of a document. -/
def ofDocument (d : Document) : Except SpecError QuerySpec := do
  let draft ← (d.decode Draft.decode).mapError (.document d.format)
  draft.validate.mapError .draft

/-- Reads a specification written in YAML. -/
def ofYaml (text : String) : Except SpecError QuerySpec := ofDocument (Document.Yaml.read text)

/-- Reads a specification written in JSON. -/
def ofJson (text : String) : Except SpecError QuerySpec := ofDocument (Document.Json.read text)

/-- Reads a specification file: JSON if its extension says so, else YAML. -/
def ofFile (files : Files) (name : String) : Except SpecError QuerySpec := do
  let text ← (files.readText name).mapError (.unreadable name)
  if fileExtension name = some "json" then ofJson text else ofYaml text

end QuerySpec

end DottedQuery
