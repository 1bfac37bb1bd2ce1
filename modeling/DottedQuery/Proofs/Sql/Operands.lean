/-
# DottedQuery.Proofs.Sql.Operands -- operands stay out of texts

The text of a statement is a function of what is left of its pieces when the operands are wiped
(`textFrom_wipe`): an operand is a placeholder there, whatever it is. So a statement has the text of the
bare one, which does the same to the same columns and has no operands of its own (`text_bare`).

Queries that are equal up to operands and labels have plans with the same bare statement. Nobody who
supplies an operand or a label has a say in the text that a database is given (`text_eq_of_plan`).
-/
import DottedQuery.Proofs.Plan.Operands
import DottedQuery.Proofs.Plan.PrefixTree
import DottedQuery.Sql.Statement

namespace DottedQuery

/-- A condition of this kind, with an operand that says nothing. -/
def ConditionKind.bare : ConditionKind → Condition
  | compare comparison => .compare comparison .null
  | contains => .contains ""
  | isNull => .isNull
  | isNotNull => .isNotNull

namespace Sql

open Piece (words name operand textFrom)

/-! ## Wiped pieces -/

/-- A piece without its operand. -/
def Piece.wipe : Piece → Piece
  | words text => words text
  | name identifier => name identifier
  | operand _ => operand .null

/-- No operand gets into a text. -/
theorem textFrom_wipe (d : Dialect) (number : Nat) (pieces : List Piece) :
    textFrom d number (pieces.map Piece.wipe) = textFrom d number pieces := by
  induction pieces generalizing number with
  | nil => rfl
  | cons piece pieces ih =>
    cases piece with
    | words text => exact congrArg (text.toList ++ ·) (ih number)
    | name identifier => exact congrArg (d.quoteChars identifier.toList ++ ·) (ih number)
    | operand value => exact congrArg ((d.placeholder number).toList ++ ·) (ih (number + 1))

/-- What is left of a condition is settled by its kind. -/
theorem wipe_conditionPieces (d : Dialect) (q : QualifiedColumn) (condition : Condition) :
    (conditionPieces d q condition).map Piece.wipe =
      (conditionPieces d q condition.kind.bare).map Piece.wipe := by
  cases condition with
  | compare comparison value => rfl
  | contains part => cases d <;> rfl
  | isNull | isNotNull => rfl

theorem wipe_chainPieces (before between : String) (groups : List (List Piece)) :
    (chainPieces before between groups).map Piece.wipe =
      chainPieces before between (groups.map (·.map Piece.wipe)) := by
  cases groups with
  | nil => rfl
  | cons group groups =>
    rw [chainPieces, List.map_append, List.map_flatMap, List.map_cons, List.map_cons, chainPieces,
      List.flatMap_map]
    rfl

/-! ## Bare statements -/

/-- The statement without its operands. -/
def Select.bare (s : Select) : Select :=
  { s with conditions := s.conditions.map fun c => (c.1, c.2.kind.bare) }

theorem wipe_pieces (s : Select) (d : Dialect) :
    (s.pieces d).map Piece.wipe = (s.bare.pieces d).map Piece.wipe := by
  have hconditions : (s.conditions.map fun c => conditionPieces d c.1 c.2).map (·.map Piece.wipe) =
      (s.bare.conditions.map fun c => conditionPieces d c.1 c.2).map (·.map Piece.wipe) := by
    rw [Select.bare, List.map_map, List.map_map, List.map_map]
    exact List.map_congr_left fun c _ => wipe_conditionPieces d c.1 c.2
  rw [Select.pieces, List.map_append, wipe_chainPieces, hconditions, ← wipe_chainPieces,
    ← List.map_append]
  rfl

/-- A statement has the text of the bare one. -/
theorem text_bare (s : Select) (d : Dialect) : (s.bare.statement d).text = (s.statement d).text := by
  have hpieces : textFrom d 1 (s.bare.pieces d) = textFrom d 1 (s.pieces d) := by
    rw [← textFrom_wipe d 1 (s.pieces d), wipe_pieces, textFrom_wipe]
  exact congrArg String.ofList hpieces

/-! ## The texts of plans -/

variable {c : Catalog} {spec spec' : QuerySpec} {p p' : Plan}

/-- Plans that are equal up to operands and labels have the same bare statement. -/
theorem bare_select_eq (h : p.EqualUpToOperands p') (kind : JoinKind) :
    (p.select kind).bare = (p'.select kind).bare := by
  have hcolumns : (p.selections.map fun s => qualify s.column) =
      p'.selections.map fun s => qualify s.column := by
    refine map_eq_of_forall₂ ?_ h.selections
    rintro s s' ⟨-, hcolumn, -⟩
    rw [hcolumn]
  have hconditions : (p.predicates.map fun q => (qualify q.column, q.condition.kind.bare)) =
      p'.predicates.map fun q => (qualify q.column, q.condition.kind.bare) := by
    refine map_eq_of_forall₂ ?_ h.predicates
    rintro q q' ⟨-, hcolumn, hkind⟩
    rw [hcolumn, hkind]
  simp only [Select.bare, Plan.select, List.map_map, Function.comp_def, h.joins_eq, hcolumns,
    hconditions]

/-- Operands and labels have no influence on texts: queries that differ in nothing else have the same
text in every dialect and for both kinds of join. -/
theorem text_eq_of_plan (hspec : spec.EqualUpToOperands spec') (h : c.plan spec = .ok p)
    (h' : c.plan spec' = .ok p') :
    (∀ (d : Dialect) (kind : JoinKind),
      ((p.select kind).statement d).text = ((p'.select kind).statement d).text) ∧
      p.EqualUpToOperands p' := by
  have hplans : p.EqualUpToOperands p' := equalUpToOperands_of_plan hspec h h'
  refine ⟨fun d kind => ?_, hplans⟩
  rw [← text_bare, bare_select_eq hplans, text_bare]

end Sql

namespace Staff

/-- Names of those whose superior is known and is not somebody, under a label. -/
def besides (label : Option String) (somebody : Value) : QuerySpec where
  table := "person"
  fields := [⟨ownName, label⟩]
  filters := [⟨bossName, .not, somebody⟩, ⟨bossName, .null, .bool false⟩]

/-- A number becomes a text on a text field, and an operand that looks like part of a statement stays
one. -/
theorem text_eq_of_plan_besides :
    ∃ p p', (besides none (.int 7)).EqualUpToOperands (besides (some "x") (.text "' OR 1 = 1 --")) ∧
      catalog.plan (besides none (.int 7)) = .ok p ∧
      catalog.plan (besides (some "x") (.text "' OR 1 = 1 --")) = .ok p' ∧
      ((p.select .left).statement .mysql).text = ((p'.select .left).statement .mysql).text ∧
      p.EqualUpToOperands p' := by
  have hspec : (besides none (.int 7)).EqualUpToOperands
      (besides (some "x") (.text "' OR 1 = 1 --")) :=
    ⟨rfl, .cons rfl .nil, .cons ⟨rfl, rfl, nofun⟩ (.cons ⟨rfl, rfl, fun _ => rfl⟩ .nil)⟩
  obtain ⟨p, hp⟩ : ∃ p, catalog.plan (besides none (.int 7)) = .ok p := ⟨_, rfl⟩
  obtain ⟨p', hp'⟩ : ∃ p', catalog.plan (besides (some "x") (.text "' OR 1 = 1 --")) = .ok p' :=
    ⟨_, rfl⟩
  obtain ⟨htext, hplans⟩ := Sql.text_eq_of_plan hspec hp hp'
  exact ⟨p, p', hspec, hp, hp', htext .mysql .left, hplans⟩

end Staff

end DottedQuery
