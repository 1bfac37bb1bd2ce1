/-
# DottedQuery.Store.Settling -- what expressions mean at a place

Where an expression stands decides what its names mean and what it cannot hold. It is settled
from the outside to the inside. What is wrong with a call is noted, and its operands are
settled nevertheless; a name that means nothing and what cannot stand there stop the settling
of all that the next call around it does not hold. Any other operation is settled only as long
as nothing is wrong. The fault that was found last is told.
-/
import DottedQuery.Store.FunctionNames

namespace DottedQuery.Store

/-! ## What can be worked out -/

namespace Expression

/-- Whether the expression itself can be worked out, if its parts can. -/
def isWorked : Expression → Bool
  | apply (.call t) operands => admits workedFunctions t.name operands.length
  | apply (.callWith ..) _ | apply .row _ | apply (.flawed _) _ | name .. | barred .. => false
  | _ => true

/-- Whether the value of the expression can be worked out. -/
def understood (e : Expression) : Bool := e.parts.all isWorked

/-- The refusal of a row where there is nothing to compare it with. -/
def rowMessage : String := "row value misused"

mutual
/-- Why an expression has no value, if it has none. -/
def flaw? : Expression → Option String
  | apply .row _ => some rowMessage
  | apply (.flawed message) _ => some message
  | apply .or [a, b] =>
    if a.isPlainTruth true || b.isPlainTruth true then none else flaw? b <|> flaw? a
  | apply _ operands => lastFlaw? operands
  | _ => none

/-- Why the last of some expressions that have no value has none. -/
def lastFlaw? : List Expression → Option String
  | [] => none
  | e :: rest => lastFlaw? rest <|> flaw? e
end

/-! ## Rows -/

/-- The values that are compared where an expression is. -/
def members : Expression → List Expression
  | apply .row items => items
  | e => [e]

/-- Whether two expressions can be compared value by value. -/
def areRows (a b : Expression) : Bool :=
  let isRow (e : Expression) : Bool := e matches apply .row _
  isRow a && isRow b && a.members.length = b.members.length &&
    (a.members ++ b.members).all (!isRow ·)

/-- That two lists of values are the same, pair by pair. -/
def allPairs (equal : Operation) : List (Expression × Expression) → Expression
  | [] => truth true
  | [(a, b)] => both equal a b
  | (a, b) :: rest => both .and (both equal a b) (allPairs equal rest)

/-- That two lists of values differ in the way of a comparison where they differ first. -/
def firstDifference (comparison : Comparison) : List (Expression × Expression) → Expression
  | [] => truth false
  | [(a, b)] => both (.compare comparison) a b
  | (a, b) :: rest =>
    both .or (both (.compare comparison) a b)
      (both .and (both (.compare .equal) a b) (firstDifference comparison rest))

/-- Two expressions compared. Rows are compared value by value. -/
def compared (operation : Operation) (a b : Expression) : Expression :=
  let pairs := a.members.zip b.members
  if !areRows a b then both operation a b
  else
    match operation with
    | .compare .equal => allPairs (.compare .equal) pairs
    | .compare .different => not (allPairs (.compare .equal) pairs)
    | .compare comparison => firstDifference comparison pairs
    | operation => allPairs operation pairs

/-- A choice whose conditions are values that another is compared with. Where that is a row,
the conditions are comparisons. -/
def chosenBy (base : Expression) (cases : List Expression) : Expression :=
  let comparison (e : Expression) (i : Nat) : Expression :=
    if i % 2 = 0 && i + 1 < cases.length then compared (.compare .equal) base e else e
  match base with
  | apply .row _ => apply (.choose false) (cases.mapIdx fun i e => comparison e i)
  | _ => apply (.choose true) (base :: cases)

/-- An operation on expressions that are settled. -/
def ofSettled (operation : Operation) (operands : List Expression) : Expression :=
  match operation, operands with
  | .between, [e, low, high] =>
    both .and (not (compared (.compare .less) e low)) (not (compared (.compare .greater) e high))
  | .compare comparison, [a, b] => compared (.compare comparison) a b
  | .same, [a, b] => compared .same a b
  | .differ, [a, b] => not (compared .same a b)
  | .choose true, base :: cases => chosenBy base cases
  | operation, operands => apply operation operands

/-- Whether an operation is given as many values as it compares them with. -/
def isBalanced (operation : Operation) (operands : List Expression) : Bool :=
  let width (e : Expression) : Nat := e.members.length
  match operation, operands with
  | .between, e :: others => others.all fun other => width other = width e
  | .compare _, [a, b] | .same, [a, b] | .differ, [a, b] => width a = width b
  | _, _ => true

end Expression

/-! ## Settling -/

/-- Settles something: keeps the fault that was noted last, and fails where it stops. -/
abbrev Settling := StateT (Option Fault) (Except Fault)

namespace Settling

/-- Notes a fault and goes on. -/
def note (fault : Fault) : Settling Unit := set (some fault)

/-- Goes on only if nothing is wrong so far. -/
def confirm : Settling Unit := do
  if let some fault ← get then throw fault

/-- Settles something; where that stops, goes on with what there was before. -/
def attempt {α : Type} (before : α) (settled : Settling α) : Settling α := fun noted =>
  match settled noted with
  | .ok result => .ok result
  | .error fault => .ok (before, some fault)

/-- What was settled, unless a fault was noted. -/
def outcome {α : Type} (settled : Settling α) : Except Fault α :=
  match settled none with
  | .ok (a, none) => .ok a
  | .ok (_, some fault) => .error fault
  | .error fault => .error fault

end Settling

/-- Where an expression stands. -/
structure Place where
  /-- What a name means. -/
  name : List Token → Token → Settling Expression
  /-- The refusal of what cannot stand there. -/
  barred : String → Option Nat → Fault
  /-- What is wrong with a call of a function by itself. -/
  call : Token → List Expression → Option CallClause → Option Fault

namespace Place

/-- Settles an operation that is generally settled: first the number of values is checked that
it compares. -/
def settleOperation (operation : Operation) (operands : List Expression)
    (settled : Settling (List Expression)) : Settling Expression := do
  if !Expression.isBalanced operation operands then
    throw ⟨Expression.rowMessage, (Expression.apply operation operands).offset?⟩
  Settling.confirm
  return .ofSettled operation (← settled)

/-- Settles whether two expressions are the same or differ. A name on the right is settled
first, and is a truth value if it can be; whether something is null stops nothing. -/
def settleIdentity (p : Place) (operation : Operation) (e right : Expression)
    (settledLeft settledRight : Settling Expression) : Settling Expression := do
  match right with
  | .cell .null => return .ofSettled operation [← Settling.attempt e settledLeft, right]
  | .name [] token => do
    match ← p.name [] token with
    | .truth expected => do
      let truth := Expression.apply (.truth expected) [← settledLeft]
      Settling.confirm
      return if operation = .same then truth else .not truth
    | other => settleOperation operation [e, other] do
        let e ← settledLeft
        Settling.confirm
        return [e, other]
  | _ => settleOperation operation [e, right] do return [← settledLeft, ← settledRight]

mutual
/-- Settles an expression. -/
def settle (p : Place) : Expression → Settling Expression
  | .name qualifiers token => p.name qualifiers token
  | .barred what offset => throw (p.barred what offset)
  | .apply (.call t) operands => do
    if let some fault := p.call t operands none then Settling.note fault
    return .apply (.call t) (← Settling.attempt operands (settleAll p operands))
  | .apply (.callWith t clause) operands => do
    if let some fault := p.call t operands (some clause) then Settling.note fault
    return .apply (.callWith t clause) (← Settling.attempt operands (settleAll p operands))
  | .apply .same [e, right] => settleIdentity p .same e right (settle p e) (settle p right)
  | .apply .differ [e, right] => settleIdentity p .differ e right (settle p e) (settle p right)
  | .apply operation operands => settleOperation operation operands (settleAll p operands)
  | e => do
    Settling.confirm
    return e

/-- Settles expressions one after the other. -/
def settleAll (p : Place) : List Expression → Settling (List Expression)
  | [] => return []
  | e :: rest => do return (← settle p e) :: (← settleAll p rest)
end

end Place

end DottedQuery.Store
