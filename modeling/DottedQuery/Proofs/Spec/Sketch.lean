/-
# DottedQuery.Proofs.Spec.Sketch -- what a document leaves out of a specification

In a document the fields, the filters, the options of a field and the conditions of a path may be left
out, or be null. A `Sketch` tells each of these levels from an empty one. A draft no longer does: it has
empty levels for those left out. `sameOutcome_decode` says that reading a draft is reading a sketch and
then taking its draft, with the same faults, so that what is proved of the drafts of all sketches is
proved of all drafts that are read.
-/
import DottedQuery.Proofs.Document.Decoders
import DottedQuery.Spec.Reading

namespace DottedQuery.Draft

open Document (Decoder Format Node)

/-- A draft as a document has it: every level below the table may be left out. -/
structure Sketch where
  table : String
  /-- Paths with their options, and in these a label. -/
  fields : Option (Dict (Option (Option String)))
  filter : Option (List (Dict (Option (Dict Value))))

namespace Sketch

/-- Fields without their options have no label. -/
def withLabels (fields : Dict (Option (Option String))) : Dict (Option String) := fields.map Option.join

/-- Paths without conditions have none. -/
def withConditions (entry : Dict (Option (Dict Value))) : Dict (Dict Value) :=
  entry.map (·.getD .empty)

/-- The draft in which the levels that are left out are empty. -/
def draft (s : Sketch) : Draft where
  table := s.table
  fields := (s.fields.map withLabels).getD .empty
  filter := (s.filter.map (List.map withConditions)).getD []

/-! ## Reading -/

/-- Slots of a sketch. -/
structure Slots where
  table : Option String := none
  fields : Option (Dict (Option (Option String))) := none
  filter : Option (List (Dict (Option (Dict Value)))) := none

/-- The requested fields with their options. -/
def fieldTable : Decoder (Dict (Option (Option String))) :=
  Document.dict (Document.optional Draft.fieldOptions)

/-- A filter entry. -/
def filterEntry : Decoder (Dict (Option (Dict Value))) :=
  Document.dict (Document.optional (Document.dict Document.value))

/-- A field of the specification. -/
def fill (format : Format) (name : String) (node : Node) (slots : Slots) :
    Except Document.Error Slots := do
  if name = "table" then return { slots with table := some (← Document.text format node) }
  else if name = "fields" then
    return { slots with fields := ← Document.optional fieldTable format node }
  else return { slots with filter := ← Document.optional (Document.list filterEntry) format node }

/-- A whole specification, with the levels that it leaves out. -/
def decode : Decoder Sketch := fun format node => do
  let filling ← Document.struct "RawSpec" ["table", "fields", "filter"] {} (fill format) format node
  return ⟨← filling.require "table" Slots.table, filling.slots.fields, filling.slots.filter⟩

/-- The slots of a draft for those of its sketch. -/
def Slots.draft (slots : Slots) : Draft.Slots where
  table := slots.table
  fields := slots.fields.map withLabels
  filter := slots.filter.map (List.map withConditions)

variable {format : Format} {node : Node}

/-- A step goes on as it does alone if its result is only changed. -/
theorem sameOutcome_bind_pure {ε α β : Type} (x : Except ε α) (f : α → β) :
    SameOutcome (fun a b => f a = b) x (x >>= fun a => pure (f a)) := by
  cases x with
  | error fault => exact .error fault
  | ok a => exact .ok rfl

theorem map_of_rel {α β : Type} {f : α → β} {x : Option α} {y : Option β}
    (h : Option.Rel (fun a b => f a = b) x y) : x.map f = y := by
  cases h with
  | none => rfl
  | some h => rw [Option.map_some, h]

theorem sameOutcome_fields :
    SameOutcome (fun fields fields' => fields.map withLabels = fields')
      (Document.optional fieldTable format node) (Document.optional Draft.fieldTable format node) :=
  (Document.sameOutcome_optional (sameOutcome_bind_pure _ withLabels)).mono fun _ _ => map_of_rel

theorem sameOutcome_filter :
    SameOutcome (fun filter filter' => filter.map (List.map withConditions) = filter')
      (Document.optional (Document.list filterEntry) format node)
      (Document.optional (Document.list Draft.filterEntry) format node) := by
  have hentry (item : Node) : SameOutcome (fun entry entry' => withConditions entry = entry')
      (filterEntry format item) (Draft.filterEntry format item) := sameOutcome_bind_pure _ withConditions
  refine (Document.sameOutcome_optional ((Document.sameOutcome_list hentry).mono ?_)).mono
    fun _ _ => map_of_rel
  intro entries entries' h
  rw [← List.forall₂_map_left_iff, List.forall₂_eq_eq_eq] at h
  exact h

/-- A draft is read as its sketch is. -/
theorem sameOutcome_decode (format : Format) (node : Node) :
    SameOutcome (fun sketch draft => sketch.draft = draft) (decode format node)
      (Draft.decode format node) := by
  unfold decode Draft.decode
  refine (Document.sameOutcome_struct (R := fun slots slots' => slots.draft = slots') ?_ rfl).bind ?_
  · rintro name node slots _ rfl
    unfold fill
    split
    · refine (SameOutcome.refl (R := Eq) (fun _ => rfl) (Document.text format node)).bind ?_
      rintro table _ rfl
      exact .ok rfl
    split
    · refine sameOutcome_fields.bind ?_
      rintro fields _ rfl
      exact .ok rfl
    · refine sameOutcome_filter.bind ?_
      rintro filter _ rfl
      exact .ok rfl
  · rintro ⟨slots, seen, listed⟩ ⟨slots', seen', listed'⟩ ⟨hslots, hseen, hlisted⟩
    cases hslots
    cases hlisted
    have hrequire : SameOutcome Eq
        ((⟨slots, seen, listed⟩ : Document.Filling Slots).require "table" Slots.table)
        ((⟨slots.draft, seen', listed⟩ : Document.Filling Draft.Slots).require "table" Draft.Slots.table) :=
      .refl (fun _ => rfl) _
    refine hrequire.bind ?_
    rintro table _ rfl
    exact .ok rfl

end Sketch

end DottedQuery.Draft
