/-
# DottedQuery.Proofs.Catalog.Making -- entities that are made step by step

An entity starts with a name and is given its table, fields and relationships one after the other. Each
relationship is stored with the name that the entity has at that time as its source. `Made` are the
entities that keep their name from the first relationship on, and of these every relationship leads away
from the entity that it is found in (`Made.source_eq`). That is an invariant of the steps and not of the
type: whoever writes another name into an entity afterwards is left with relationships of the old source.

The other half are runs of steps. What a list of fields or of relationships adds is a fold over the
dictionary concerned, and all else stays.
-/
import DottedQuery.Catalog.Entity
import DottedQuery.Proofs.Dictionaries

namespace DottedQuery.Entity

variable {e : Entity} {name : String} {r : Relationship}

/-! ## Single steps -/

/-- Entities that are made step by step. The name and the table may be written over, the name only as long
as there are no relationships. -/
inductive Made : Entity → Prop
  | ofName (name : String) : Made (.ofName name)
  | rename {e : Entity} (name : String) (hnone : e.edges = .empty) (h : Made e) : Made { e with name }
  | setTable {e : Entity} (table : Option String) (h : Made e) : Made { e with table }
  | addField {e : Entity} (name : String) (dataType : DataType) (h : Made e) :
      Made (e.addField name dataType)
  | addLink {e : Entity} (name : String) (link : Link) (h : Made e) : Made (e.addLink name link)

theorem relationship?_addLink (e : Entity) (name other : String) (link : Link) :
    (e.addLink name link).relationship? other =
      if other = name then some (e.relationshipOf name link) else e.relationship? other :=
  e.edges.get?_insert name other (e.relationshipOf name link)

/-- A relationship of an entity that was made has this entity as its source. -/
theorem Made.source_eq (h : e.Made) (hr : e.relationship? name = some r) : r.source = e.name := by
  induction h with
  | ofName _ => cases hr
  | rename _ hnone _ _ =>
    rw [relationship?, hnone] at hr
    cases hr
  | setTable _ _ ih => exact ih hr
  | addField _ _ _ ih => exact ih hr
  | addLink added link _ ih =>
    rw [relationship?_addLink] at hr
    split at hr
    · cases hr
      rfl
    · exact ih hr

/-! ## Runs of steps -/

theorem Made.addFields (h : e.Made) (fields : List (String × DataType)) : (e.addFields fields).Made := by
  induction fields generalizing e with
  | nil => exact h
  | cons entry fields ih => exact ih (.addField entry.1 entry.2 h)

theorem Made.addLinks (h : e.Made) (links : List (String × Link)) : (e.addLinks links).Made := by
  induction links generalizing e with
  | nil => exact h
  | cons entry links ih => exact ih (.addLink entry.1 entry.2 h)

/-- What no single field changes, no list of fields changes. -/
theorem keeps_addFields {α : Type} (read : Entity → α)
    (hstep : ∀ e name dataType, read (Entity.addField e name dataType) = read e) (e : Entity)
    (fields : List (String × DataType)) : read (e.addFields fields) = read e := by
  induction fields generalizing e with
  | nil => rfl
  | cons entry fields ih => exact (ih (e.addField entry.1 entry.2)).trans (hstep e entry.1 entry.2)

theorem name_addFields (e : Entity) (fields : List (String × DataType)) :
    (e.addFields fields).name = e.name := keeps_addFields (·.name) (fun _ _ _ => rfl) e fields

theorem table_addFields (e : Entity) (fields : List (String × DataType)) :
    (e.addFields fields).table = e.table := keeps_addFields (·.table) (fun _ _ _ => rfl) e fields

theorem edges_addFields (e : Entity) (fields : List (String × DataType)) :
    (e.addFields fields).edges = e.edges := keeps_addFields (·.edges) (fun _ _ _ => rfl) e fields

/-- The fields of an entity that had none are those that are written. -/
theorem fieldDefs_addFields (h : e.fieldDefs = .empty) (fields : List (String × DataType)) :
    (e.addFields fields).fieldDefs = .ofList (fields.map fun entry => (entry.1, ⟨entry.1, entry.2⟩)) := by
  have hfold (e : Entity) : (e.addFields fields).fieldDefs =
      fields.foldl (fun d entry => d.insert entry.1 ⟨entry.1, entry.2⟩) e.fieldDefs := by
    induction fields generalizing e with
    | nil => rfl
    | cons entry fields ih => exact ih (e.addField entry.1 entry.2)
  rw [hfold, h, Dict.ofList, List.foldl_map]

/-- What no single relationship changes, no list of relationships changes. -/
theorem keeps_addLinks {α : Type} (read : Entity → α)
    (hstep : ∀ e name link, read (Entity.addLink e name link) = read e) (e : Entity)
    (links : List (String × Link)) : read (e.addLinks links) = read e := by
  induction links generalizing e with
  | nil => rfl
  | cons entry links ih => exact (ih (e.addLink entry.1 entry.2)).trans (hstep e entry.1 entry.2)

theorem name_addLinks (e : Entity) (links : List (String × Link)) :
    (e.addLinks links).name = e.name := keeps_addLinks (·.name) (fun _ _ _ => rfl) e links

theorem table_addLinks (e : Entity) (links : List (String × Link)) :
    (e.addLinks links).table = e.table := keeps_addLinks (·.table) (fun _ _ _ => rfl) e links

theorem fieldDefs_addLinks (e : Entity) (links : List (String × Link)) :
    (e.addLinks links).fieldDefs = e.fieldDefs :=
  keeps_addLinks (·.fieldDefs) (fun _ _ _ => rfl) e links

/-- The relationships of an entity that had none are those that are written, with the entity as their
source: its name stays what it is while they are added. -/
theorem edges_addLinks (h : e.edges = .empty) (links : List (String × Link)) :
    (e.addLinks links).edges =
      .ofList (links.map fun entry => (entry.1, e.relationshipOf entry.1 entry.2)) := by
  have hfold (e : Entity) : (e.addLinks links).edges =
      links.foldl (fun d entry => d.insert entry.1 (e.relationshipOf entry.1 entry.2)) e.edges := by
    induction links generalizing e with
    | nil => rfl
    | cons entry links ih => exact ih (e.addLink entry.1 entry.2)
  rw [hfold, h, Dict.ofList, List.foldl_map]

end DottedQuery.Entity
