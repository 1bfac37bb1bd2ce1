/-
# DottedQuery.Proofs.Sql.Placeholders -- placeholders and their operands

Beside the text of a statement stand its operands, and a database puts the first one where the first
placeholder is. Names may have question marks and dollar signs in them, which are no placeholders: they
are inside of marks. So placeholders are counted among the tokens of the text, not among its characters.

The number of an operand is one more than the number of operands before it, and null tests take none.
Both the tokens and the list of operands are made from the conditions in their order, so the operand of
a condition is the one that its placeholder stands for (`binds_statement`).
-/
import DottedQuery.Proofs.Sql.Decoding

namespace DottedQuery

namespace Sql

open Piece (words name operand)

/-! ## Placeholders -/

/-- The placeholder that a token is, if it is one. -/
def Token.placeholder? : Token → Option String
  | .placeholder text => some text
  | _ => none

/-- The placeholder of a test, if it has one. -/
def Test.placeholder? : Test → Option String
  | compare _ placeholder => some placeholder
  | contains placeholder => some placeholder
  | isNull | isNotNull => none

/-- The placeholders among tokens. -/
def placeholders (ts : List Token) : List String := ts.filterMap Token.placeholder?

/-- The placeholders of tests in their order. -/
def placeholdersOf (tests : List (QualifiedColumn × Test)) : List String :=
  tests.filterMap (·.2.placeholder?)

theorem placeholdersOf_cons (entry : QualifiedColumn × Test)
    (tests : List (QualifiedColumn × Test)) :
    placeholdersOf (entry :: tests) = entry.2.placeholder?.toList ++ placeholdersOf tests := by
  obtain ⟨q, test⟩ := entry
  cases test <;> rfl

variable {o : Outline}

theorem placeholders_append (ts more : List Token) :
    placeholders (ts ++ more) = placeholders ts ++ placeholders more := List.filterMap_append

theorem placeholders_flatMap {α : Type} (write : α → List Token) (xs : List α) :
    placeholders (xs.flatMap write) = xs.flatMap fun x => placeholders (write x) :=
  List.filterMap_flatMap

theorem placeholders_testTokens (d : Dialect) (entry : QualifiedColumn × Test) :
    placeholders (testTokens d entry) = entry.2.placeholder?.toList := by
  obtain ⟨q, test⟩ := entry
  cases test with
  | compare comparison placeholder => rfl
  | contains placeholder => cases d <;> rfl
  | isNull | isNotNull => rfl

theorem placeholders_joins (joins : List (JoinKind × Join)) :
    placeholders (joins.flatMap joinTokens) = [] := by
  rw [placeholders_flatMap, List.flatMap_eq_nil_iff]
  intro entry _
  rfl

theorem placeholders_columns (columns : List QualifiedColumn) :
    placeholders ([.point ","].intercalate (columns.map columnTokens)) = [] := by
  cases columns with
  | nil => rfl
  | cons q columns =>
    rw [List.map_cons, intercalate_cons, List.flatMap_map, placeholders_append,
      placeholders_flatMap]
    exact List.flatMap_eq_nil_iff.mpr fun _ _ => rfl

theorem placeholders_tests (d : Dialect) (tests : List (QualifiedColumn × Test)) :
    placeholders (tests.flatMap fun entry => .word "AND" :: testTokens d entry) =
      placeholdersOf tests := by
  rw [placeholders_flatMap, placeholdersOf, List.filterMap_eq_flatMap_toList]
  refine congrArg (List.flatMap · tests) (funext fun entry => ?_)
  exact placeholders_testTokens d entry

/-- Conditions as they are written where there are any. -/
theorem testsTokens_cons (d : Dialect) (entry : QualifiedColumn × Test)
    (tests : List (QualifiedColumn × Test)) : testsTokens d (entry :: tests) =
      .word "WHERE" :: (testTokens d entry ++
        tests.flatMap fun entry => .word "AND" :: testTokens d entry) := by
  rw [testsTokens, if_neg (List.cons_ne_nil _ _), List.map_cons, intercalate_cons, List.flatMap_map]

theorem placeholders_testsTokens (d : Dialect) (tests : List (QualifiedColumn × Test)) :
    placeholders (testsTokens d tests) = placeholdersOf tests := by
  cases tests with
  | nil => rfl
  | cons entry tests =>
    have hwhere : placeholders [.word "WHERE"] = [] := rfl
    rw [testsTokens_cons, ← List.singleton_append, placeholders_append, hwhere, placeholders_append,
      placeholders_testTokens, placeholders_tests, placeholdersOf_cons, List.nil_append]

/-- A test stands in the text after the placeholders of the tests before it. -/
theorem exists_split_testsTokens (d : Dialect) (before : List (QualifiedColumn × Test))
    (entry : QualifiedColumn × Test) (after : List (QualifiedColumn × Test)) :
    ∃ front back, testsTokens d (before ++ entry :: after) = front ++ testTokens d entry ++ back ∧
      placeholders front = placeholdersOf before := by
  cases before with
  | nil =>
    rw [List.nil_append, testsTokens_cons]
    exact ⟨[.word "WHERE"], _, rfl, rfl⟩
  | cons first before =>
    refine ⟨testsTokens d (first :: before) ++ [.word "AND"],
      after.flatMap fun entry => .word "AND" :: testTokens d entry, ?_, ?_⟩
    · rw [List.cons_append, testsTokens_cons, testsTokens_cons, List.flatMap_append,
        List.flatMap_cons]
      simp only [List.cons_append, List.append_assoc, List.nil_append]
    · have hand : placeholders [.word "AND"] = [] := rfl
      rw [placeholders_append, placeholders_testsTokens, hand, List.append_nil]

/-- What comes before the conditions of a statement has no placeholders. -/
theorem exists_split_tokens (d : Dialect) (o : Outline) :
    ∃ front, o.tokens d = front ++ testsTokens d o.tests ∧ placeholders front = [] := by
  refine ⟨.word "SELECT" :: ([.point ","].intercalate (o.selected.map columnTokens) ++
    .word "FROM" :: (sourceTokens o.root ++ o.joins.flatMap joinTokens)), ?_, ?_⟩
  · rw [Outline.tokens]
    simp only [List.cons_append, List.append_assoc]
  · have hselect : placeholders [.word "SELECT"] = [] := rfl
    have hroot : placeholders (.word "FROM" :: sourceTokens o.root) = [] := rfl
    rw [← List.singleton_append, placeholders_append, hselect, placeholders_append,
      placeholders_columns, ← List.cons_append, placeholders_append, hroot, placeholders_joins]
    rfl

theorem placeholders_tokens (d : Dialect) (o : Outline) :
    placeholders (o.tokens d) = placeholdersOf o.tests := by
  obtain ⟨front, htokens, hfront⟩ := exists_split_tokens d o
  rw [htokens, placeholders_append, hfront, placeholders_testsTokens, List.nil_append]

theorem exists_split_test (d : Dialect) {before after : List (QualifiedColumn × Test)}
    {entry : QualifiedColumn × Test} (h : o.tests = before ++ entry :: after) :
    ∃ front back, o.tokens d = front ++ testTokens d entry ++ back ∧
      placeholders front = placeholdersOf before := by
  obtain ⟨front, htokens, hfront⟩ := exists_split_tokens d o
  obtain ⟨front', back, htests, hfront'⟩ := exists_split_testsTokens d before entry after
  refine ⟨front ++ front', back, ?_, ?_⟩
  · rw [htokens, h, htests]
    simp only [List.append_assoc]
  · rw [placeholders_append, hfront, hfront', List.nil_append]

/-! ## Numbers -/

/-- The operands of conditions in their order. -/
def operandsOf (conditions : List (QualifiedColumn × Condition)) : List Value :=
  conditions.filterMap (·.2.operand?)

theorem operandsOf_cons (q : QualifiedColumn) (condition : Condition)
    (rest : List (QualifiedColumn × Condition)) :
    operandsOf ((q, condition) :: rest) = condition.operand?.toList ++ operandsOf rest := by
  cases condition <;> rfl

theorem operandsOf_append (conditions more : List (QualifiedColumn × Condition)) :
    operandsOf (conditions ++ more) = operandsOf conditions ++ operandsOf more :=
  List.filterMap_append

/-- Conditions go on with the number that those before them have left. -/
theorem testsFrom_append (d : Dialect) (number : Nat)
    (before after : List (QualifiedColumn × Condition)) :
    testsFrom d number (before ++ after) =
      testsFrom d number before ++ testsFrom d (number + (operandsOf before).length) after := by
  induction before generalizing number with
  | nil => rfl
  | cons entry before ih =>
    obtain ⟨q, condition⟩ := entry
    rw [List.cons_append, testsFrom, ih, testsFrom, operandsOf_cons, List.length_append,
      Nat.add_assoc]
    rfl

theorem placeholder?_testOf (d : Dialect) (number : Nat) (condition : Condition) :
    (testOf d number condition).placeholder? =
      condition.operand?.map fun _ => d.placeholder number := by
  cases condition <;> rfl

/-- The numbers of the operands run on from the first without a gap. -/
theorem placeholders_testsFrom (d : Dialect) (number : Nat)
    (conditions : List (QualifiedColumn × Condition)) :
    placeholdersOf (testsFrom d number conditions) =
      (List.range' number (operandsOf conditions).length).map d.placeholder := by
  induction conditions generalizing number with
  | nil => rfl
  | cons entry conditions ih =>
    obtain ⟨q, condition⟩ := entry
    rw [testsFrom, placeholdersOf_cons, placeholder?_testOf, operandsOf_cons, ih]
    cases condition.operand? with
    | none => rfl
    | some value => rfl

theorem operands_andPieces (d : Dialect) (conditions : List (QualifiedColumn × Condition)) :
    (andPieces d conditions).filterMap Piece.operand? = operandsOf conditions := by
  rw [andPieces, List.filterMap_flatMap, operandsOf, List.filterMap_eq_flatMap_toList]
  refine congrArg (List.flatMap · conditions) (funext fun c => ?_)
  exact operands_conditionPieces d c.1 c.2

theorem operands_wherePieces (d : Dialect) (conditions : List (QualifiedColumn × Condition)) :
    (wherePieces d conditions).filterMap Piece.operand? = operandsOf conditions := by
  cases conditions with
  | nil => rfl
  | cons c conditions =>
    rw [wherePieces_cons, List.filterMap_cons_none rfl, List.filterMap_append, operands_andPieces,
      operands_conditionPieces]
    exact (operandsOf_cons c.1 c.2 conditions).symm

/-- The operands beside a text are those of its conditions, in every dialect. -/
theorem operands_statement (s : Select) (d : Dialect) :
    (s.statement d).operands = operandsOf s.conditions := by
  have hroot : (words " FROM " :: sourcePieces s.root).filterMap Piece.operand? = [] := rfl
  show (s.pieces d).filterMap Piece.operand? = _
  rw [pieces_eq, List.filterMap_cons_none rfl, List.filterMap_append, operands_selectedPieces,
    List.filterMap_append, hroot, List.filterMap_append, operands_joins, operands_wherePieces]
  rfl

/-! ## The statement of a plan -/

/-- The conditions of the statement of a plan. -/
def conditionsOf (predicates : List Predicate) : List (QualifiedColumn × Condition) :=
  predicates.map fun q => (qualify q.column, q.condition)

/-- How operands belong to the placeholders among tokens. -/
structure Binds (p : Plan) (d : Dialect) (operands : List Value) (ts : List Token) : Prop where
  /-- There is one placeholder for each operand, and the numbers run from 1 without gap or repeat. -/
  numbered : placeholders ts = (List.range' 1 operands.length).map d.placeholder
  operands_eq : operands = p.predicates.filterMap (·.condition.operand?)
  /-- Every condition stands after the placeholders of the conditions before it. If it has an operand,
  it has the next placeholder, and the operand is the one in the same place; else it has none. -/
  conditions : ∀ before q after, p.predicates = before ++ q :: after →
    ∃ front test back, ts = front ++ testTokens d (qualify q.column, test) ++ back ∧
      test.kind = q.condition.kind ∧
      (placeholders front).length = (before.filterMap (·.condition.operand?)).length ∧
      test.placeholder? =
        q.condition.operand?.map (fun _ => d.placeholder ((placeholders front).length + 1)) ∧
      ∀ value, q.condition.operand? = some value →
        operands[(placeholders front).length]? = some value

theorem operandsOf_conditionsOf (predicates : List Predicate) :
    operandsOf (conditionsOf predicates) = predicates.filterMap (·.condition.operand?) :=
  List.filterMap_map

theorem binds_outline (p : Plan) (d : Dialect) (kind : JoinKind) :
    Binds p d ((p.select kind).statement d).operands (((p.select kind).outline d).tokens d) where
  numbered := by
    rw [placeholders_tokens, operands_statement]
    exact placeholders_testsFrom d 1 _
  operands_eq := by
    rw [operands_statement]
    exact operandsOf_conditionsOf p.predicates
  conditions := by
    intro before q after hcut
    have hconditions : (p.select kind).conditions =
        conditionsOf before ++ (qualify q.column, q.condition) :: conditionsOf after := by
      show conditionsOf p.predicates = _
      rw [hcut, conditionsOf, List.map_append]
      rfl
    obtain ⟨number, hnumber⟩ : ∃ number, number = (operandsOf (conditionsOf before)).length :=
      ⟨_, rfl⟩
    obtain ⟨later, htests⟩ : ∃ later, ((p.select kind).outline d).tests =
        testsFrom d 1 (conditionsOf before) ++
          (qualify q.column, testOf d (1 + number) q.condition) :: later := by
      rw [Select.outline, hconditions, testsFrom_append, testsFrom, hnumber]
      exact ⟨_, rfl⟩
    -- what comes before this test has the placeholders of the conditions before it
    obtain ⟨front, back, htokens, hfront⟩ := exists_split_test d htests
    have hlength : (placeholders front).length = number := by
      rw [hfront, placeholders_testsFrom, List.length_map, List.length_range', hnumber]
    refine ⟨front, testOf d (1 + number) q.condition, back, htokens, kind_testOf _ _ _, ?_, ?_, ?_⟩
    · rw [hlength, hnumber, operandsOf_conditionsOf]
    · rw [hlength, Nat.add_comm number]
      exact placeholder?_testOf _ _ _
    · intro value hvalue
      have hoperand : operandsOf ((qualify q.column, q.condition) :: conditionsOf after) =
          value :: operandsOf (conditionsOf after) := by
        rw [operandsOf_cons, hvalue]
        rfl
      rw [hlength, hnumber, operands_statement, hconditions, operandsOf_append, hoperand,
        List.getElem?_append_right (Nat.le_refl _), Nat.sub_self]
      rfl

/-- In the statement of every plan the placeholders outside of names stand for the operands beside the
text, in the same order. The operands depend neither on the dialect nor on the kind of join. -/
theorem binds_statement (p : Plan) (d : Dialect) (kind : JoinKind) :
    ∃ o : Outline,
      tokens? d.quoteMark ((p.select kind).statement d).text.toList = some (o.tokens d) ∧
      Outline.ofText? d.quoteMark ((p.select kind).statement d).text = some o ∧
      Binds p d ((p.select kind).statement d).operands (o.tokens d) ∧
      ∀ (d' : Dialect) (kind' : JoinKind),
        ((p.select kind').statement d').operands = ((p.select kind).statement d).operands := by
  refine ⟨(p.select kind).outline d, tokens?_statement _ d, ofText?_statement _ d,
    binds_outline p d kind, ?_⟩
  intro d' kind'
  rw [operands_statement, operands_statement]
  rfl

end Sql

namespace Staff

/-- Those whose superior is known and not Eve, and whose own name has an a in it. -/
def unlikeEve : QuerySpec where
  table := "person"
  fields := [⟨ownName, none⟩]
  filters := [⟨⟨[], "boss_name", by decide⟩, .null, .bool false⟩, ⟨bossName, .not, .text "Eve"⟩,
    ⟨bossName, .null, .bool false⟩, ⟨ownName, .contains, .text "a"⟩]

/-- Null tests stand between the conditions that have operands. -/
theorem binds_statement_unlikeEve :
    ∃ p, catalog.plan unlikeEve = .ok p ∧ p.predicates.length = 4 ∧
      ∃ o : Sql.Outline, Sql.placeholders (o.tokens .postgres) = ["$1", "$2"] ∧
        Sql.Binds p .postgres [.text "Eve", .text "a"] (o.tokens .postgres) := by
  obtain ⟨p, hp⟩ : ∃ p, catalog.plan unlikeEve = .ok p := ⟨_, rfl⟩
  obtain ⟨o, -, -, hbinds, -⟩ := Sql.binds_statement p .postgres .inner
  have hoperands : ((p.select .inner).statement .postgres).operands =
      [.text "Eve", .text "a"] := by
    cases hp
    rfl
  rw [hoperands] at hbinds
  have hlength : p.predicates.length = 4 := by
    cases hp
    rfl
  exact ⟨p, hp, hlength, o, hbinds.numbered, hbinds⟩

end Staff

end DottedQuery
