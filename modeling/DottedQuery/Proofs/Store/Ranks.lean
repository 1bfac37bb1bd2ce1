/-
# DottedQuery.Proofs.Store.Ranks -- which cells compare, and how

A condition compares ranks. A cell without rank is null, and every comparison with it is unknown. All
that a filter can compare with has a rank, whatever the column makes of it (`Proper.exists_rank`):
null is no operand, doubles that are no numbers are left out here, and a text that is read as a number
gives one. Ranks are totally ordered, so if an operand has one, exactly one of `exactly`, `not` and the
test for null is true of a cell, and so it is with `exactly`, `less_than`, `greater_than` and the test
(`alternatives_of_comparisons`).
-/
import DottedQuery.Proofs.Decimal.Numbers
import DottedQuery.Store.Comparison
import Mathlib.Data.Int.Order.Basic
import Mathlib.Data.List.Lex

namespace DottedQuery

open Store (Cell Manner)

/-! ## Cells with a rank -/

namespace Store.Cell

variable {cell : Cell} {bytes : List UInt8}

/-- Neither null nor a double that is no number. -/
def Proper : Cell → Prop
  | null => False
  | real x => x.isNaN = false
  | int _ | text _ | blob _ => True

theorem proper_of_ofInt? {n : Int} (h : ofInt? n = some cell) : cell.Proper := by
  unfold ofInt? at h
  split at h
  · cases h
    trivial
  · cases h

theorem proper_getD {found : Option Cell} {default : Cell} (h : ∀ cell, found = some cell → cell.Proper)
    (hdefault : default.Proper) : (found.getD default).Proper := by
  cases found with
  | none => exact hdefault
  | some cell => exact h cell rfl

/-- What is spelled as a number is one. -/
theorem proper_of_ofUnsigned? {negative : Bool} {s : List Char}
    (h : ofUnsigned? negative s = some cell) : cell.Proper := by
  obtain ⟨numeral, -, h⟩ := Option.bind_eq_some_iff.mp h
  cases h
  refine proper_getD ?_ ?_
  · intro cell hcell
    split at hcell
    · exact proper_of_ofInt? hcell
    · cases hcell
  · show Float.isNaN _ = false
    split
    · exact Decimal.isNaN_neg (Decimal.isNaN_scaledValue numeral)
    · exact Decimal.isNaN_scaledValue numeral

theorem proper_of_ofNumberText? (h : ofNumberText? bytes = some cell) : cell.Proper :=
  proper_of_ofUnsigned? h

/-- A column makes no proper cell improper. -/
theorem Proper.compared (h : cell.Proper) (affinity : Affinity) : (affinity.compared cell).Proper := by
  unfold Affinity.compared
  cases cell with
  | null | blob bytes => exact h
  | int n | real x =>
    dsimp only
    split
    · trivial
    · exact h
  | text bytes =>
    dsimp only
    split
    · exact proper_getD (fun cell => proper_of_ofNumberText?) h
    · exact h

/-- Proper cells have a rank. -/
theorem Proper.exists_rank (h : cell.Proper) (m : Manner) : ∃ r, cell.rank m = some r := by
  have hcompared := h.compared m.affinity
  unfold rank
  cases hcell : m.affinity.compared cell with
  | null =>
    rw [hcell] at hcompared
    exact hcompared.elim
  | real x =>
    rw [hcell] at hcompared
    dsimp only
    rw [if_neg (Bool.eq_false_iff.mp hcompared)]
    exact ⟨_, rfl⟩
  | int n | text bytes | blob bytes => exact ⟨_, rfl⟩

end Store.Cell

/-! ## Operands -/

namespace Condition

variable {dataType : DataType} {v a b : Value} {m : Manner} {cell : Cell}
  {comparison : Comparison}

/-- The operand of a comparison for equality is the given one, which is not null, or on a text field
the text of it. -/
theorem equalityOperand_cases (h : equalityOperand dataType v = .ok a) : v ≠ .null ∧
    (a = v ∨ dataType = .text ∧ a = .text (v.stringify.getD "")) := by
  unfold equalityOperand at h
  split at h <;> cases h <;> simp_all

/-- The operand of a comparison for order is the given one, which on a text field is a text. -/
theorem orderedOperand_cases (h : orderedOperand dataType v = .ok b) :
    b = v ∧ (dataType = .text → ∃ s, v = .text s) := by
  unfold orderedOperand at h
  split at h
  -- a field without order
  · cases h
  · split at h <;> cases h <;> simp_all

/-- Comparisons for equality and for order have the same operand, since the text of a text is itself. -/
theorem operand_eq (h : equalityOperand dataType v = .ok a) (h' : orderedOperand dataType v = .ok b) :
    a = b := by
  obtain ⟨rfl, htext⟩ := orderedOperand_cases h'
  obtain ⟨-, rfl | ⟨hdataType, rfl⟩⟩ := equalityOperand_cases h
  · rfl
  · obtain ⟨s, rfl⟩ := htext hdataType
    rfl

/-- How an operator compares, and what it makes of its operand. -/
def comparisonOf : Operator → Option (Comparison × (DataType → Value → Except Expectation Value))
  | .exactly => some (.equal, equalityOperand)
  | .not => some (.different, equalityOperand)
  | .lessThan => some (.less, orderedOperand)
  | .greaterThan => some (.greater, orderedOperand)
  | .contains | .null => none

/-- The condition of an operator that compares. -/
theorem exists_operand {operator : Operator} {condition : Condition}
    {operandOf : DataType → Value → Except Expectation Value}
    (hoperator : comparisonOf operator = some (comparison, operandOf))
    (h : ofOperator operator v dataType = .ok condition) :
    ∃ a, operandOf dataType v = .ok a ∧ condition = compare comparison a := by
  have hmap : (operandOf dataType v).map (compare comparison) = .ok condition := by
    cases operator with
    | exactly | not | lessThan | greaterThan =>
      cases hoperator
      cases v with
      -- no operator takes bytes
      | bytes bs => cases h
      | null | bool b | int n | float x | text s => exact h
    | contains | null => cases hoperator
  cases hoperand : operandOf dataType v with
  | error expected =>
    rw [hoperand] at hmap
    cases hmap
  | ok a =>
    rw [hoperand] at hmap
    cases hmap
    exact ⟨a, rfl, rfl⟩

/-- An operand that is not a double without number is compared as a proper cell. -/
theorem proper_of_equalityOperand (h : equalityOperand dataType v = .ok a)
    (hv : ∀ x, v = .float x → x.isNaN = false) : (Cell.ofValue a).Proper := by
  obtain ⟨hnull, rfl | ⟨-, rfl⟩⟩ := equalityOperand_cases h
  · cases a with
    | null => exact hnull rfl
    | float x =>
      have hx := hv x rfl
      rw [Cell.ofValue, if_neg (Bool.eq_false_iff.mp hx)]
      exact hx
    | bool b | int n | text s | bytes bs => trivial
  · trivial

/-! ## Alternatives -/

/-- Every cell meets exactly one of some conditions. -/
def Alternatives (m : Manner) (conditions : List Condition) : Prop :=
  ∀ cell, conditions.countP (·.holds m cell) = 1

theorem decide_some_eq_true (b : Bool) : decide (some b = some true) = b := by
  cases b with
  | false => rfl
  | true => rfl

/-- A comparison is true of a cell if it holds between the rank of the cell and that of the operand. -/
theorem holds_compare {r : List Int} (hr : (Cell.ofValue a).rank m = some r) :
    (compare comparison a).holds m cell = (cell.rank m).any (comparison.holds · r) := by
  rw [holds, truth]
  cases hk : cell.rank m with
  | none => rfl
  | some k =>
    rw [hr]
    exact decide_some_eq_true (comparison.holds k r)

theorem holds_isNull : isNull.holds m cell = (cell.rank m).isNone :=
  decide_some_eq_true _

/-- Comparisons of which exactly one holds between any two ranks are alternatives, together with the
test for null. -/
theorem alternatives_of_comparisons {comparisons : List Comparison}
    (hone : ∀ k r, comparisons.countP (·.holds k r) = 1) (ha : (Cell.ofValue a).Proper) (m : Manner) :
    Alternatives m (comparisons.map (compare · a) ++ [isNull]) := by
  obtain ⟨r, hr⟩ := ha.exists_rank m
  intro cell
  rw [List.countP_append, List.countP_map, List.countP_singleton, holds_isNull]
  simp only [Function.comp_def, holds_compare hr]
  cases cell.rank m with
  -- no comparison with null is true
  | none =>
    simp only [Option.any_none, Option.isNone_none, List.countP_false, if_true]
    rfl
  | some k =>
    simp only [Option.any_some, Option.isNone_some, hone]
    rfl

/-- Two ranks are equal or different. -/
theorem countP_equal_different (k r : List Int) :
    [Comparison.equal, .different].countP (·.holds k r) = 1 := by
  by_cases h : k = r
  · simp [Comparison.holds, h]
  · simp [Comparison.holds, h]

/-- Of two ranks one is the less if they are not equal. -/
theorem countP_equal_less_greater (k r : List Int) :
    [Comparison.equal, .less, .greater].countP (·.holds k r) = 1 := by
  rcases lt_trichotomy k r with h | h | h
  · simp [Comparison.holds, h, h.ne, h.not_gt]
  · simp [Comparison.holds, h]
  · simp [Comparison.holds, h, h.ne', h.not_gt]

end Condition

end DottedQuery
