/-
# DottedQuery.Store.Arrangement -- an answer in the order in which it is found

The rows of an answer come in the order in which the tables are gone through: by the rows of the
first table, for each of them by the rows of the next one, and so on. Only tables that are kept
in the database have orders to choose from; a statement with others goes through all of them as
they are written.
-/
import DottedQuery.Store.Answer
import DottedQuery.Store.Route

namespace DottedQuery.Store

open Sql (JoinKind Select)

/-! ## What a statement asks of its tables -/

/-- What a condition asks of a column. -/
def askedBy : Condition → Asked
  | .compare .equal _ => .equal
  | .compare .less _ => .less
  | .compare .greater _ => .greater
  | .isNull => .null
  | .isNotNull => .notNull
  | .compare .different _ | .contains _ => .other

namespace Prepared

/-- The place of a column in the orders of its table. -/
def placeOf (p : Prepared) (s : Slot) : Nat :=
  ((p.relations[s.table]?).map (·.placeOf s.column)).getD s.column

/-- The columns that a statement names. -/
def slots (p : Prepared) : List Slot :=
  p.columns ++ p.conditions.map (·.1) ++ p.joins.flatMap fun j => [j.target, j.partner]

/-- Whether a condition fails on a table without row. Of tests for null only that counts which
comes first. -/
def rejectsAbsence (table : Nat) (entry : (Slot × Condition) × Nat) : Bool :=
  let ((slot, condition), i) := entry
  slot.table = table &&
    match condition with
    | .compare _ _ => true
    | .isNotNull => i = 0
    | .contains _ | .isNull => false

/-- Whether a table stays if no row of it is found, and no condition fails on that. -/
def isOptional (p : Prepared) (table : Nat) : Bool :=
  p.joinKind = .left && table ≠ 0 && !p.conditions.zipIdx.any (rejectsAbsence table)

/-- A table of the statement. -/
def stop (p : Prepared) (relation : Relation) (table : Nat) : Stop :=
  let slots := p.slots.filter (·.table = table)
  let isComputed (s : Slot) : Bool := relation.columns[s.column]?.any (·.computed)
  let places := (slots.map p.placeOf).eraseDups
  let used := if slots.any isComputed then places ++ [relation.columns.length + 1] else places
  { relation, used, isOptional := p.isOptional table }

/-- Whether the cells of a column are never null in the rows of its table. -/
def isNeverNull (p : Prepared) (s : Slot) : Bool :=
  (p.relations[s.table]?).all fun r =>
    match r.columns[r.placeOf s.column]? with
    | some column => column.required
    | none => true

/-- The columns that equal operands, each with the number of the condition that says so. -/
def fixed (p : Prepared) : List ((Nat × Nat) × Nat) :=
  p.conditions.zipIdx.reverse.filterMap fun ((slot, condition), i) =>
    if askedBy condition = .equal && slot.manner.collation.isPlain then
      some ((slot.table, p.placeOf slot), i)
    else none

/-- The tables that have to be known before a column in a term is. -/
def needsOf (p : Prepared) (s : Slot) : List Nat :=
  if (p.fixed.lookup (s.table, p.placeOf s)).isSome then [] else [s.table]

/-- What a condition asks. A test for null of a column that is never null asks nothing of it. -/
def conditionTerms (p : Prepared) (number : Nat) (entry : Slot × Condition) : List Term :=
  let (slot, condition) := entry
  let column := p.placeOf slot
  let refers := if p.fixed.lookup (slot.table, column) = some number then [slot.table]
    else p.needsOf slot
  let term : Term :=
    { number, table := slot.table, column, asked := askedBy condition
      names := [(slot.table, column)], refers, manner := slot.manner }
  if !([Asked.null, .notNull].contains term.asked) then [term]
  else if p.isNeverNull slot then
    if p.joinKind = .left && slot.table ≠ 0 then [{ term with asked := .other }]
    else [{ term with asked := .other, names := [], refers := [] }]
  else if term.asked = .null then [term]
  else [{ term with asked := .other }, { term with isMirrored := true }]

/-- Whether equal cells of two columns can stand for each other. -/
def areAlike (a b : Manner) : Bool :=
  (a.affinity = b.affinity || (a.affinity.isNumeric && b.affinity.isNumeric)) &&
    ((a.joined b).collation.isPlain || a.collation = b.collation)

/-- What a join asks of the joined table, and then what it asks of its partner. A table that stays
if it finds no row does not help to find its partner. -/
def joinTerms (p : Prepared) (number : Nat) (j : PreparedJoin) : List Term :=
  let isOptional := p.isOptional j.target.table
  let place (s : Slot) : Nat × Nat := (s.table, p.placeOf s)
  let needs (s : Slot) : List Nat := if isOptional then [s.table] else p.needsOf s
  let isPartnerOpen : Bool := !(needs j.partner).isEmpty
  let isEquivalence : Bool :=
    !isOptional && isPartnerOpen && areAlike j.target.manner j.partner.manner
  let term : Term :=
    { number, table := j.target.table, column := p.placeOf j.target, asked := .equal
      needs := (needs j.partner).head?, names := [place j.target, place j.partner]
      refers := needs j.target ++ needs j.partner
      equal := if isEquivalence then some (place j.partner) else none
      isOptional, manner := j.target.manner.joined j.partner.manner }
  let mirrored : Term :=
    { term with
      table := j.partner.table, column := p.placeOf j.partner
      needs := if isOptional then some j.partner.table else (needs j.target).head?
      equal := if isEquivalence && !(needs j.target).isEmpty then some (place j.target) else none
      isMirrored := true }
  if isPartnerOpen then [term, mirrored] else [term]

/-- What the statement asks of its tables: first all terms as they stand, then what follows from
them, from the last one on. -/
def task (p : Prepared) : Task :=
  let conditions := p.conditions.zipIdx.map fun (entry, i) => p.conditionTerms i entry
  let joins := (p.joins.zipIdx p.conditions.length).map fun (j, i) => p.joinTerms i j
  let found := conditions ++ joins
  { stops := p.relations.zipIdx.map fun (relation, i) => p.stop relation i
    terms := found.flatten.filter (!·.isMirrored) ++ found.reverse.flatten.filter (·.isMirrored) }

end Prepared

/-! ## Arranging -/

/-- Whether an assignment comes before another, or may, by columns of tables. -/
def Assignment.precedes : List (Nat × IndexColumn) → Assignment → Assignment → Bool
  | [], _, _ => true
  | (table, c) :: rest, a, b =>
    let slot : Slot := ⟨table, c.position, { collation := c.collation }⟩
    let rank (a : Assignment) : List Int := ((a.cell slot).rank slot.manner).getD []
    if rank a = rank b then precedes rest a b
    else if c.falling then rank b < rank a
    else rank a < rank b

namespace Prepared

/-- By which columns of which tables the rows come. -/
def order (p : Prepared) : List (Nat × IndexColumn) :=
  if p.relations.all (·.isTable) then
    p.task.itinerary.flatMap fun (table, columns) => columns.map fun c => (table, c)
  else []

/-- The answer in the order in which its rows are found. -/
def arranged (p : Prepared) : List Row :=
  ((p.assignments.filter p.admits).mergeSort (Assignment.precedes p.order)).map fun a =>
    p.columns.map a.cell

end Prepared

/-- The answer to a plan, in the order in which it is found. -/
def Database.executeArranged (db : Database) (joinKind : JoinKind) (p : Plan) :
    Except StoreError (List (List Value)) := do
  return valuesOf p (← prepare db (p.select joinKind)).arranged

end DottedQuery.Store
