/-
# DottedQuery.Proofs.Sql.Clauses -- reading a statement back

A statement is a sequence of words, identifiers and operands. Identifiers come in pairs: a table with
its alias, or an alias with a column. `mentions` reads the pairs off a statement, with the words
before and between them, and `clauses` tells by these words what each pair is for: a source, a column,
or the first of the two columns of a join condition. The reader looks at the pieces alone and knows
nothing of the structure they were made from.

The lemmas go along the pieces from left to right, one kind of group at a time; `clauses_pieces` is
the reading of a whole statement.
-/
import DottedQuery.Sql.Statement

namespace DottedQuery.Sql

open Piece (words name operand)

/-! ## The reader -/

/-- Two identifiers in a statement with the words before and between them. -/
structure Mention where
  before : String
  first : String
  between : String
  second : String

/-- The pairs of identifiers of a statement. -/
def mentions : List Piece → List Mention
  | words before :: name first :: words between :: name second :: rest =>
    ⟨before, first, between, second⟩ :: mentions rest
  | _ :: rest => mentions rest
  | [] => []

/-- What a part of a statement is for. -/
inductive Clause where
  /-- A table and its alias, after these words. -/
  | source (before : String) (s : Source)
  /-- Two columns that have to be equal in a join. -/
  | on (column partner : QualifiedColumn)
  | column (q : QualifiedColumn)

/-- What pairs of identifiers are for. -/
def clausesOf : List Mention → List Clause
  | ⟨" ON ", a, ".", x⟩ :: ⟨" = ", b, ".", y⟩ :: rest => .on ⟨a, x⟩ ⟨b, y⟩ :: clausesOf rest
  | ⟨before, table, " AS ", a⟩ :: rest => .source before ⟨table, a⟩ :: clausesOf rest
  | m :: rest => .column ⟨m.first, m.second⟩ :: clausesOf rest
  | [] => []

/-- The clauses of a statement. -/
def clauses (pieces : List Piece) : List Clause := clausesOf (mentions pieces)

/-! ## Reading one group of pieces -/

variable {before : String} {q partner : QualifiedColumn} {rest : List Piece}

/-- A column is read as such, unless it follows the word that starts a join condition. -/
theorem clauses_column (hbefore : before ≠ " ON ") (q : QualifiedColumn) (rest : List Piece) :
    clauses (words before :: columnPieces q ++ rest) = .column q :: clauses rest := by
  show clausesOf (⟨before, q.aliasName, ".", q.column⟩ :: mentions rest) = _
  rw [clausesOf]
  · rfl
  · intro _ _ _ _ _ h
    exact absurd (congrArg Mention.before h) hbefore
  · intro _ _ _ h
    have hbetween : "." = " AS " := congrArg Mention.between h
    exact absurd hbetween (by decide)

theorem clauses_source (before : String) (s : Source) (rest : List Piece) :
    clauses (words before :: sourcePieces s ++ rest) = .source before s :: clauses rest := by
  show clausesOf (⟨before, s.table, " AS ", s.aliasName⟩ :: mentions rest) = _
  rw [clausesOf]
  rfl

theorem clauses_on (column partner : QualifiedColumn) (rest : List Piece) :
    clauses (words " ON " :: columnPieces column ++ (words " = " :: columnPieces partner ++ rest)) =
      .on column partner :: clauses rest := by
  show clausesOf (⟨" ON ", column.aliasName, ".", column.column⟩ ::
    ⟨" = ", partner.aliasName, ".", partner.column⟩ :: mentions rest) = _
  rw [clausesOf]
  rfl

/-- Words that no identifier follows are passed over. -/
theorem clauses_words (hrest : ∀ identifier more, rest ≠ name identifier :: more) :
    clauses (words before :: rest) = clauses rest := by
  rw [clauses, mentions]
  · rfl
  · intro _ _ _ _ _ _ h
    exact hrest _ _ h

/-- The start of a substring test is read as its column, in every dialect. -/
theorem clauses_part (d : Dialect) (q : QualifiedColumn)
    (hrest : ∀ identifier more, rest ≠ name identifier :: more) :
    clauses (words before :: partPieces d q ++ rest) = .column q :: clauses rest := by
  cases d with
  | sqlite | duckdb =>
    show clauses (words before :: (words "instr(" :: columnPieces q ++ rest)) = _
    rw [clauses_words (by simp), clauses_column (by decide)]
  | postgres =>
    show clauses (words before :: (words "strpos(" :: columnPieces q ++ rest)) = _
    rw [clauses_words (by simp), clauses_column (by decide)]
  | mysql =>
    show clauses (words before :: (words "INSTR(CAST(" :: columnPieces q ++
      (words " AS BINARY)" :: rest))) = _
    rw [clauses_words (by simp), clauses_column (by decide), clauses_words hrest]

/-- A condition is read as its column: its operand and its other words mention nothing. -/
theorem clauses_condition (d : Dialect) (hbefore : before ≠ " ON ") (q : QualifiedColumn)
    (condition : Condition) (hrest : ∀ identifier more, rest ≠ name identifier :: more) :
    clauses (words before :: conditionPieces d q condition ++ rest) = .column q :: clauses rest := by
  cases condition with
  | compare comparison value =>
    show clauses (words before :: columnPieces q ++
      (words (" " ++ comparisonSign comparison ++ " ") :: operand value :: rest)) = _
    rw [clauses_column hbefore, clauses_words (by simp)]
    rfl
  | contains part =>
    -- the dialects differ before the operand only
    have hpieces : words before :: conditionPieces d q (.contains part) ++ rest =
        words before :: partPieces d q ++
          (words ", " :: operand (.text part) :: words ") > 0" :: rest) := by
      simp only [conditionPieces, List.cons_append, List.append_assoc, List.nil_append]
    rw [hpieces, clauses_part d q (by simp), clauses_words (by simp)]
    exact congrArg (List.cons _) (clauses_words hrest)
  | isNull =>
    show clauses (words before :: columnPieces q ++ (words " IS NULL" :: rest)) = _
    rw [clauses_column hbefore, clauses_words hrest]
  | isNotNull =>
    show clauses (words before :: columnPieces q ++ (words " IS NOT NULL" :: rest)) = _
    rw [clauses_column hbefore, clauses_words hrest]

/-! ## Reading a whole statement -/

/-- The columns of a statement, up to the words that introduce its first table. -/
theorem clauses_columns (hbefore : before ≠ " ON ") {columns : List QualifiedColumn}
    (hne : columns ≠ []) (rest : List Piece) :
    clauses (words before :: [words ", "].intercalate (columns.map columnPieces) ++ rest) =
      columns.map .column ++ clauses rest := by
  induction columns generalizing before with
  | nil => exact absurd rfl hne
  | cons q others ih =>
    -- the last column has no comma after it
    cases others with
    | nil =>
      rw [List.map_singleton, List.intercalate_singleton]
      exact clauses_column hbefore q rest
    | cons q' others =>
      have hpieces : words before :: [words ", "].intercalate ((q :: q' :: others).map columnPieces)
          ++ rest = words before :: columnPieces q ++ (words ", " ::
            [words ", "].intercalate ((q' :: others).map columnPieces) ++ rest) := by
        rw [List.map_cons, List.intercalate_cons_of_ne_nil (by simp), List.cons_append,
          List.append_assoc, List.append_assoc]
        rfl
      rw [hpieces, clauses_column hbefore, ih (by decide) (List.cons_ne_nil _ _)]
      rfl

/-- The clauses of a joined table. -/
def joinClauses (kind : JoinKind) (j : Join) : List Clause :=
  [.source (joinWords kind) j.source, .on ⟨j.source.aliasName, j.targetColumn⟩ j.partner]

theorem clauses_joins (kind : JoinKind) (joins : List Join) (rest : List Piece) :
    clauses (joins.flatMap (joinPieces kind) ++ rest) =
      joins.flatMap (joinClauses kind) ++ clauses rest := by
  induction joins with
  | nil => rfl
  | cons j joins ih =>
    have hpieces : (j :: joins).flatMap (joinPieces kind) ++ rest =
        words (joinWords kind) :: sourcePieces j.source ++
          (words " ON " :: columnPieces ⟨j.source.aliasName, j.targetColumn⟩ ++
            (words " = " :: columnPieces j.partner ++ (joins.flatMap (joinPieces kind) ++ rest))) := by
      rw [List.flatMap_cons, joinPieces]
      simp only [List.append_assoc, List.cons_append]
    rw [hpieces, clauses_source, clauses_on, ih]
    rfl

theorem clauses_and (d : Dialect) (conditions : List (QualifiedColumn × Condition)) :
    clauses (conditions.flatMap fun c => words " AND " :: conditionPieces d c.1 c.2) =
      conditions.map (.column ·.1) := by
  induction conditions with
  | nil => rfl
  | cons c conditions ih =>
    rw [List.flatMap_cons, clauses_condition d (by decide), ih]
    · rfl
    · cases conditions with
      | nil => simp
      | cons c' conditions => simp

/-- The conditions of a statement, which are at its end. -/
theorem clauses_conditions (d : Dialect) (conditions : List (QualifiedColumn × Condition)) :
    clauses (chainPieces " WHERE " " AND " (conditions.map fun c => conditionPieces d c.1 c.2)) =
      conditions.map (.column ·.1) := by
  cases conditions with
  | nil => rfl
  | cons c conditions =>
    rw [List.map_cons, chainPieces, List.flatMap_map, clauses_condition d (by decide), clauses_and]
    · rfl
    · cases conditions with
      | nil => simp
      | cons c' conditions => simp

/-- What is read off a statement with columns: these, the first table, each joined table with its
join condition, and the columns of the conditions. -/
theorem clauses_pieces {s : Select} (hne : s.columns ≠ []) (d : Dialect) :
    clauses (s.pieces d) = s.columns.map .column ++ .source " FROM " s.root ::
      s.joins.flatMap (joinClauses s.joinKind) ++ s.conditions.map (.column ·.1) := by
  have hpieces : s.pieces d = words "SELECT " ::
      [words ", "].intercalate (s.columns.map columnPieces) ++
        (words " FROM " :: sourcePieces s.root ++ (s.joins.flatMap (joinPieces s.joinKind) ++
          chainPieces " WHERE " " AND " (s.conditions.map fun c => conditionPieces d c.1 c.2))) := by
    rw [Select.pieces]
    simp only [List.append_assoc, List.cons_append]
  rw [hpieces, clauses_columns (by decide) hne, clauses_source, clauses_joins, clauses_conditions,
    List.append_assoc]
  rfl

end DottedQuery.Sql
