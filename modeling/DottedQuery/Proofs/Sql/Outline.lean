/-
# DottedQuery.Proofs.Sql.Outline -- what the tokens of a statement say

An `Outline` is a statement as its text shows it: the columns, the first table, the joined tables with
the columns of their join conditions, and what each condition does to which column, with a placeholder
where it has an operand. `Outline.tokens` writes it as tokens in a dialect, and `Outline.ofTokens?`
reads tokens, in whichever dialect they were written.

The reader cuts a statement at the words FROM, WHERE and AND and at commas. None of these is ever
among the tokens between two cuts, as names are tokens of another sort, so it finds the cuts that were
made (`ofTokens?_tokens`).
-/
import DottedQuery.Proofs.Sql.Tokens

namespace DottedQuery.Sql

/-! ## Outlines -/

/-- What a condition does to its column, with the placeholder of its operand. -/
inductive Test where
  | compare (comparison : Comparison) (placeholder : String)
  | contains (placeholder : String)
  | isNull
  | isNotNull
  deriving DecidableEq, Repr

/-- A statement as its text shows it. -/
structure Outline where
  selected : List QualifiedColumn
  root : Source
  joins : List (JoinKind × Join)
  tests : List (QualifiedColumn × Test)
  deriving DecidableEq, Repr

/-! ## Writing -/

def columnTokens (q : QualifiedColumn) : List Token := [.name q.aliasName, .point ".", .name q.column]

def sourceTokens (s : Source) : List Token := [.name s.table, .word "AS", .name s.aliasName]

/-- The word before JOIN. -/
def flavour : JoinKind → String
  | .inner => "INNER"
  | .left => "LEFT"

def joinTokens (entry : JoinKind × Join) : List Token :=
  .word (flavour entry.1) :: .word "JOIN" :: sourceTokens entry.2.source ++ .word "ON" ::
    columnTokens ⟨entry.2.source.aliasName, entry.2.targetColumn⟩ ++ .sign "=" ::
    columnTokens entry.2.partner

/-- The start of a substring test. -/
def partTokens (d : Dialect) (q : QualifiedColumn) : List Token :=
  match d with
  | .sqlite | .duckdb => .word "instr" :: .point "(" :: columnTokens q
  | .postgres => .word "strpos" :: .point "(" :: columnTokens q
  | .mysql => .word "INSTR" :: .point "(" :: .word "CAST" :: .point "(" :: columnTokens q ++
      [.word "AS", .word "BINARY", .point ")"]

def testTokens (d : Dialect) (entry : QualifiedColumn × Test) : List Token :=
  match entry.2 with
  | .compare comparison placeholder =>
    columnTokens entry.1 ++ [.sign (comparisonSign comparison), .placeholder placeholder]
  | .contains placeholder => partTokens d entry.1 ++
      [.point ",", .placeholder placeholder, .point ")", .sign ">", .number "0"]
  | .isNull => columnTokens entry.1 ++ [.word "IS", .word "NULL"]
  | .isNotNull => columnTokens entry.1 ++ [.word "IS", .word "NOT", .word "NULL"]

/-- Conditions after WHERE, with AND between them. Without conditions there is no WHERE. -/
def testsTokens (d : Dialect) (tests : List (QualifiedColumn × Test)) : List Token :=
  if tests = [] then []
  else .word "WHERE" :: [.word "AND"].intercalate (tests.map (testTokens d))

def Outline.tokens (d : Dialect) (o : Outline) : List Token :=
  .word "SELECT" :: ([.point ","].intercalate (o.selected.map columnTokens) ++ .word "FROM" ::
    (sourceTokens o.root ++ (o.joins.flatMap joinTokens ++ testsTokens d o.tests)))

/-! ## Reading -/

def columnOf? : List Token → Option QualifiedColumn
  | [.name a, .point ".", .name x] => some ⟨a, x⟩
  | _ => none

def comparisonOf? (sign : String) : Option Comparison :=
  [Comparison.equal, .different, .less, .greater].find? (comparisonSign · = sign)

def kindOf? (word : String) : Option JoinKind := [JoinKind.inner, .left].find? (flavour · = word)

/-- Reads a condition, a substring test in any of the ways in which dialects call it. -/
def testOf? : List Token → Option (QualifiedColumn × Test)
  | [.name a, .point ".", .name x, .sign s, .placeholder p] =>
    (comparisonOf? s).map fun comparison => (⟨a, x⟩, .compare comparison p)
  | [.name a, .point ".", .name x, .word "IS", .word "NULL"] => some (⟨a, x⟩, .isNull)
  | [.name a, .point ".", .name x, .word "IS", .word "NOT", .word "NULL"] =>
    some (⟨a, x⟩, .isNotNull)
  | [.word function, .point "(", .name a, .point ".", .name x, .point ",", .placeholder p,
      .point ")", .sign ">", .number "0"] =>
    if function = "instr" ∨ function = "strpos" then some (⟨a, x⟩, .contains p) else none
  | [.word "INSTR", .point "(", .word "CAST", .point "(", .name a, .point ".", .name x,
      .word "AS", .word "BINARY", .point ")", .point ",", .placeholder p, .point ")", .sign ">",
      .number "0"] => some (⟨a, x⟩, .contains p)
  | _ => none

/-- Reads joined tables. The first column of a join condition is one of the table that is joined. -/
def joinsOf? : List Token → Option (List (JoinKind × Join))
  | [] => some []
  | .word word :: .word "JOIN" :: .name table :: .word "AS" :: .name a :: .word "ON" :: .name a' ::
      .point "." :: .name x :: .sign "=" :: .name b :: .point "." :: .name y :: rest =>
    if a' = a then do
      let kind ← kindOf? word
      let joins ← joinsOf? rest
      return (kind, ⟨⟨table, a⟩, x, ⟨b, y⟩⟩) :: joins
    else none
  | _ => none

/-- Reads entries with separators between them. -/
def entriesOf? {α : Type} (separator : Token) (read : List Token → Option α) (ts : List Token) :
    Option (List α) := (ts.splitOn separator).mapM read

/-- Reads columns, of which there may be none. -/
def columnsOf? (ts : List Token) : Option (List QualifiedColumn) :=
  if ts = [] then some [] else entriesOf? (.point ",") columnOf? ts

/-- Reads what is left from WHERE on. -/
def testsOf? : List Token → Option (List (QualifiedColumn × Test))
  | [] => some []
  | _ :: ts => entriesOf? (.word "AND") testOf? ts

namespace Outline

/-- Reads a statement. -/
def ofTokens? : List Token → Option Outline
  | .word "SELECT" :: ts =>
    match ts.dropWhile (· ≠ .word "FROM") with
    | _ :: .name table :: .word "AS" :: .name a :: rest => do
      let selected ← columnsOf? (ts.takeWhile (· ≠ .word "FROM"))
      let joins ← joinsOf? (rest.takeWhile (· ≠ .word "WHERE"))
      let tests ← testsOf? (rest.dropWhile (· ≠ .word "WHERE"))
      return ⟨selected, ⟨table, a⟩, joins, tests⟩
    | _ => none
  | _ => none

/-- Reads the text of a statement. -/
def ofText? (mark : Char) (text : String) : Option Outline :=
  (tokens? mark text.toList).bind ofTokens?

end Outline

/-! ## Reading what was written -/

theorem columnOf?_tokens (q : QualifiedColumn) : columnOf? (columnTokens q) = some q := rfl

theorem testOf?_tokens (d : Dialect) (entry : QualifiedColumn × Test) :
    testOf? (testTokens d entry) = some entry := by
  obtain ⟨q, test⟩ := entry
  cases test with
  | compare comparison placeholder => cases comparison <;> rfl
  | contains placeholder => cases d <;> rfl
  | isNull => rfl
  | isNotNull => rfl

theorem joinsOf?_tokens (joins : List (JoinKind × Join)) :
    joinsOf? (joins.flatMap joinTokens) = some joins := by
  induction joins with
  | nil => rfl
  | cons entry joins ih =>
    obtain ⟨kind, j⟩ := entry
    have hkind : kindOf? (flavour kind) = some kind := by cases kind <;> rfl
    show joinsOf? (.word (flavour kind) :: .word "JOIN" :: .name j.source.table :: .word "AS" ::
      .name j.source.aliasName :: .word "ON" :: .name j.source.aliasName :: .point "." ::
      .name j.targetColumn :: .sign "=" :: .name j.partner.aliasName :: .point "." ::
      .name j.partner.column :: joins.flatMap joinTokens) = _
    rw [joinsOf?, if_pos rfl, hkind, ih]
    rfl

theorem mapM_map_of_reads {α β : Type} {write : α → β} {read : β → Option α}
    (h : ∀ x, read (write x) = some x) (xs : List α) : (xs.map write).mapM read = some xs := by
  induction xs with
  | nil => rfl
  | cons x xs ih =>
    rw [List.map_cons, List.mapM_cons, h, ih]
    rfl

/-- Entries are read back if the separator is in none of them. -/
theorem entriesOf?_intercalate {α : Type} {separator : Token} {write : α → List Token}
    {read : List Token → Option α} (hread : ∀ x, read (write x) = some x) {xs : List α}
    (hsep : ∀ x, separator ∉ write x) (hne : xs ≠ []) :
    entriesOf? separator read ([separator].intercalate (xs.map write)) = some xs := by
  have hsplit : ([separator].intercalate (xs.map write)).splitOn separator = xs.map write := by
    refine List.splitOn_intercalate separator ?_ (by simpa using hne)
    intro l hl
    obtain ⟨x, -, rfl⟩ := List.mem_map.mp hl
    exact hsep x
  rw [entriesOf?, hsplit, mapM_map_of_reads hread]

theorem not_mem_intercalate {separator t : Token} {entries : List (List Token)} (hsep : t ≠ separator)
    (h : ∀ entry ∈ entries, t ∉ entry) : t ∉ [separator].intercalate entries := by
  induction entries with
  | nil => simp
  | cons entry entries ih =>
    obtain ⟨hentry, hentries⟩ := List.forall_mem_cons.mp h
    cases entries with
    | nil => simpa using hentry
    | cons entry' entries =>
      rw [List.intercalate_cons_of_ne_nil (by simp)]
      simp [hentry, hsep, ih hentries]

theorem columnsOf?_tokens (columns : List QualifiedColumn) :
    columnsOf? ([.point ","].intercalate (columns.map columnTokens)) = some columns := by
  cases columns with
  | nil => rfl
  | cons q columns =>
    have hne : [Token.point ","].intercalate ((q :: columns).map columnTokens) ≠ [] := by
      cases columns <;> simp [columnTokens]
    rw [columnsOf?, if_neg hne]
    exact entriesOf?_intercalate columnOf?_tokens (fun x => by simp [columnTokens])
      (List.cons_ne_nil _ _)

theorem testsOf?_tokens (d : Dialect) (tests : List (QualifiedColumn × Test)) :
    testsOf? (testsTokens d tests) = some tests := by
  unfold testsTokens
  split
  · rename_i hnil
    rw [hnil, testsOf?]
  · rename_i hne
    refine entriesOf?_intercalate (testOf?_tokens d) (fun entry => ?_) hne
    cases htest : entry.2 <;> cases d <;>
      simp [testTokens, htest, columnTokens, partTokens]

/-- A list of tokens is cut where a word comes for the first time. -/
theorem cut_at {cut : Token} {before after : List Token} (hbefore : cut ∉ before)
    (hafter : ∀ t ∈ after.head?, t = cut) :
    (before ++ after).takeWhile (· ≠ cut) = before ∧ (before ++ after).dropWhile (· ≠ cut) = after := by
  have hall : ∀ t ∈ before, decide (t ≠ cut) = true := by
    intro t ht
    refine decide_eq_true ?_
    rintro rfl
    exact hbefore ht
  rw [List.takeWhile_append_of_pos hall, List.dropWhile_append_of_pos hall]
  cases after with
  | nil => simp
  | cons t after =>
    obtain rfl : t = cut := hafter t rfl
    simp

/-- What was written is read back. -/
theorem Outline.ofTokens?_tokens (d : Dialect) (o : Outline) : ofTokens? (o.tokens d) = some o := by
  have hfrom : Token.word "FROM" ∉ [Token.point ","].intercalate (o.selected.map columnTokens) := by
    refine not_mem_intercalate (by decide) fun entry hentry => ?_
    obtain ⟨q, -, rfl⟩ := List.mem_map.mp hentry
    simp [columnTokens]
  have hwhere : Token.word "WHERE" ∉ o.joins.flatMap joinTokens := by
    intro hmem
    obtain ⟨⟨kind, j⟩, -, hmem⟩ := List.mem_flatMap.mp hmem
    revert hmem
    cases kind <;> simp [joinTokens, sourceTokens, columnTokens, flavour]
  have hhead : ∀ t ∈ (testsTokens d o.tests).head?, t = .word "WHERE" := by
    unfold testsTokens
    split <;> simp
  have hhead' : ∀ t ∈ (.word "FROM" :: (sourceTokens o.root ++ (o.joins.flatMap joinTokens ++
      testsTokens d o.tests))).head?, t = .word "FROM" := by simp
  obtain ⟨hcolumns, hsource⟩ := cut_at hfrom hhead'
  obtain ⟨hjoins, htests⟩ := cut_at hwhere hhead
  rw [Outline.tokens, ofTokens?, hcolumns, hsource]
  show (do
    let selected ← columnsOf? _
    let joins ← joinsOf? ((o.joins.flatMap joinTokens ++ testsTokens d o.tests).takeWhile
      (· ≠ .word "WHERE"))
    let tests ← testsOf? ((o.joins.flatMap joinTokens ++ testsTokens d o.tests).dropWhile
      (· ≠ .word "WHERE"))
    return (⟨selected, ⟨o.root.table, o.root.aliasName⟩, joins, tests⟩ : Outline)) = some o
  rw [hjoins, htests, columnsOf?_tokens, joinsOf?_tokens, testsOf?_tokens]
  rfl

end DottedQuery.Sql
