/-
# DottedQuery.Proofs.Sql.Decoding -- the text of a statement says what the statement is

The text of every statement is read back as the outline of the statement (`ofText?_statement`),
whatever the names in it are. The pieces of a statement come in groups that begin with a break, so the
reader cuts the text where the groups meet, and each group has the tokens that `Outline.tokens` writes.

A plan is therefore legible from its text up to operands (`Shows`): the selected columns, the first
table, each join with both of its columns, and what each condition does to which column, every
identifier being the one in the plan. Two plans with the same text have the same structure
(`decodes_of_plan`), also if they are over different catalogs or written in different dialects: the
mark around identifiers is the character after the first word.
-/
import DottedQuery.Proofs.Plan.Operands
import DottedQuery.Proofs.Sql.Outline
import DottedQuery.Proofs.Sql.Scope

namespace DottedQuery

namespace Sql

open Piece (words name operand textFrom)

/-! ## The outline of a statement -/

/-- What a condition is in a text, with `number` for its operand. -/
def testOf (d : Dialect) (number : Nat) : Condition → Test
  | .compare comparison _ => .compare comparison (d.placeholder number)
  | .contains _ => .contains (d.placeholder number)
  | .isNull => .isNull
  | .isNotNull => .isNotNull

/-- Conditions in a text. Only those with an operand have a number. -/
def testsFrom (d : Dialect) (number : Nat) :
    List (QualifiedColumn × Condition) → List (QualifiedColumn × Test)
  | [] => []
  | (q, condition) :: rest => (q, testOf d number condition) ::
      testsFrom d (number + condition.operand?.toList.length) rest

/-- What the text of a statement shows. -/
def Select.outline (s : Select) (d : Dialect) : Outline :=
  ⟨s.columns, s.root, s.joins.map (s.joinKind, ·), testsFrom d 1 s.conditions⟩

/-- What a test does to its column. -/
def Test.kind : Test → ConditionKind
  | compare comparison _ => .compare comparison
  | contains _ => .contains
  | isNull => .isNull
  | isNotNull => .isNotNull

variable {kind kind' : JoinKind} {s : Select}

theorem kind_testOf (d : Dialect) (number : Nat) (condition : Condition) :
    (testOf d number condition).kind = condition.kind := by
  cases condition <;> rfl

/-! ## Groups of a statement -/

theorem tidy_columnPieces (d : Dialect) (q : QualifiedColumn) : tidy d (columnPieces q) = true := by
  cases d <;> rfl

theorem tidy_joinPieces (d : Dialect) (kind : JoinKind) (j : Join) :
    tidy d (joinPieces kind j) = true := by
  cases kind <;> cases d <;> rfl

theorem breaks_joinPieces (kind : JoinKind) (j : Join) : breaks (joinPieces kind j) = true := by
  cases kind <;> rfl

theorem tidy_conditionPieces (d : Dialect) (q : QualifiedColumn) (condition : Condition) :
    tidy d (conditionPieces d q condition) = true := by
  cases condition with
  | compare comparison value => cases comparison <;> cases d <;> rfl
  | contains part => cases d <;> rfl
  | isNull | isNotNull => cases d <;> rfl

theorem tokensFrom_joinPieces (d : Dialect) (kind : JoinKind) (j : Join) (number : Nat) :
    tokensFrom d number (joinPieces kind j) = joinTokens (kind, j) := by
  cases kind <;> cases d <;> rfl

theorem tokensFrom_conditionPieces (d : Dialect) (q : QualifiedColumn) (condition : Condition)
    (number : Nat) : tokensFrom d number (conditionPieces d q condition) =
      testTokens d (q, testOf d number condition) := by
  cases condition with
  | compare comparison value => cases comparison <;> cases d <;> rfl
  | contains part => cases d <;> rfl
  | isNull | isNotNull => cases d <;> rfl

theorem operands_conditionPieces (d : Dialect) (q : QualifiedColumn) (condition : Condition) :
    (conditionPieces d q condition).filterMap Piece.operand? = condition.operand?.toList := by
  cases condition with
  | compare comparison value => rfl
  | contains part => cases d <;> rfl
  | isNull | isNotNull => rfl

/-- A separator stands before every entry but the first. -/
theorem intercalate_cons {α : Type} (separator : α) (entry : List α) (entries : List (List α)) :
    [separator].intercalate (entry :: entries) = entry ++ entries.flatMap (separator :: ·) := by
  induction entries generalizing entry with
  | nil => simp
  | cons entry' entries ih =>
    rw [List.intercalate_cons_of_ne_nil (List.cons_ne_nil _ _), ih, List.flatMap_cons,
      List.append_assoc]
    rfl

/-! ## Columns and conditions -/

/-- The columns of a statement, with commas between them. -/
def selectedPieces (columns : List QualifiedColumn) : List Piece :=
  [words ", "].intercalate (columns.map columnPieces)

/-- The columns after the first. -/
def commaPieces (columns : List QualifiedColumn) : List Piece :=
  columns.flatMap fun q => words ", " :: columnPieces q

/-- The conditions of a statement. -/
def wherePieces (d : Dialect) (conditions : List (QualifiedColumn × Condition)) : List Piece :=
  chainPieces " WHERE " " AND " (conditions.map fun c => conditionPieces d c.1 c.2)

/-- The conditions after the first. -/
def andPieces (d : Dialect) (conditions : List (QualifiedColumn × Condition)) : List Piece :=
  conditions.flatMap fun c => words " AND " :: conditionPieces d c.1 c.2

theorem selectedPieces_cons (q : QualifiedColumn) (columns : List QualifiedColumn) :
    selectedPieces (q :: columns) = columnPieces q ++ commaPieces columns := by
  rw [selectedPieces, List.map_cons, intercalate_cons, List.flatMap_map]
  rfl

theorem wherePieces_cons (d : Dialect) (c : QualifiedColumn × Condition)
    (conditions : List (QualifiedColumn × Condition)) : wherePieces d (c :: conditions) =
      words " WHERE " :: (conditionPieces d c.1 c.2 ++ andPieces d conditions) := by
  rw [wherePieces, List.map_cons, chainPieces, List.flatMap_map]
  rfl

theorem tidy_commaPieces (d : Dialect) (columns : List QualifiedColumn) :
    breaks (commaPieces columns) = true ∧ tidy d (commaPieces columns) = true :=
  tidy_flatMap (fun _ => rfl) (fun _ => by cases d <;> rfl) columns

theorem tidy_selectedPieces (d : Dialect) (columns : List QualifiedColumn) :
    tidy d (selectedPieces columns) = true := by
  cases columns with
  | nil => rfl
  | cons q columns =>
    obtain ⟨hbreaks, htidy⟩ := tidy_commaPieces d columns
    rw [selectedPieces_cons]
    exact tidy_append (tidy_columnPieces d q) hbreaks htidy

theorem tidy_andPieces (d : Dialect) (conditions : List (QualifiedColumn × Condition)) :
    breaks (andPieces d conditions) = true ∧ tidy d (andPieces d conditions) = true := by
  refine tidy_flatMap (fun _ => rfl) (fun c => ?_) conditions
  rw [tidy_words (by cases d <;> rfl)]
  exact tidy_conditionPieces d c.1 c.2

theorem tidy_wherePieces (d : Dialect) (conditions : List (QualifiedColumn × Condition)) :
    breaks (wherePieces d conditions) = true ∧ tidy d (wherePieces d conditions) = true := by
  cases conditions with
  | nil => exact ⟨rfl, rfl⟩
  | cons c conditions =>
    obtain ⟨hbreaks, htidy⟩ := tidy_andPieces d conditions
    rw [wherePieces_cons, tidy_words (by cases d <;> rfl)]
    exact ⟨rfl, tidy_append (tidy_conditionPieces d c.1 c.2) hbreaks htidy⟩

theorem tokensFrom_selectedPieces (d : Dialect) (number : Nat) (columns : List QualifiedColumn) :
    tokensFrom d number (selectedPieces columns) =
      [.point ","].intercalate (columns.map columnTokens) := by
  cases columns with
  | nil => rfl
  | cons q columns =>
    have hcommas : ∀ number, tokensFrom d number (commaPieces columns) =
        columns.flatMap fun q => .point "," :: columnTokens q :=
      tokensFrom_flatMap (fun _ _ => by cases d <;> rfl) (fun _ => rfl) columns
    rw [selectedPieces_cons, tokensFrom_append, hcommas, List.map_cons, intercalate_cons,
      List.flatMap_map]
    cases d <;> rfl

/-- The conditions after the first are numbered on from where the first one ends. -/
theorem tokensFrom_andPieces (d : Dialect) (number : Nat)
    (conditions : List (QualifiedColumn × Condition)) :
    tokensFrom d number (andPieces d conditions) =
      ((testsFrom d number conditions).map (testTokens d)).flatMap (.word "AND" :: ·) := by
  induction conditions generalizing number with
  | nil => rfl
  | cons c conditions ih =>
    have hand : tokensOf d.quoteMark " AND ".toList = [.word "AND"] := by cases d <;> rfl
    have hpieces : andPieces d (c :: conditions) =
        words " AND " :: (conditionPieces d c.1 c.2 ++ andPieces d conditions) := rfl
    rw [hpieces, tokensFrom, hand, tokensFrom_append, tokensFrom_conditionPieces,
      operands_conditionPieces, ih, testsFrom, List.map_cons, List.flatMap_cons]
    rfl

theorem tokensFrom_wherePieces (d : Dialect) (number : Nat)
    (conditions : List (QualifiedColumn × Condition)) :
    tokensFrom d number (wherePieces d conditions) =
      testsTokens d (testsFrom d number conditions) := by
  cases conditions with
  | nil => rfl
  | cons c conditions =>
    have hwhere : tokensOf d.quoteMark " WHERE ".toList = [.word "WHERE"] := by cases d <;> rfl
    rw [wherePieces_cons, tokensFrom, hwhere, tokensFrom_append, tokensFrom_conditionPieces,
      operands_conditionPieces, tokensFrom_andPieces, testsFrom, testsTokens,
      if_neg (List.cons_ne_nil _ _), List.map_cons, intercalate_cons]
    rfl

/-! ## Operands -/

theorem operands_selectedPieces (columns : List QualifiedColumn) :
    (selectedPieces columns).filterMap Piece.operand? = [] := by
  cases columns with
  | nil => rfl
  | cons q columns =>
    rw [selectedPieces_cons, List.filterMap_append, commaPieces, List.filterMap_flatMap]
    exact List.flatMap_eq_nil_iff.mpr fun _ _ => rfl

theorem operands_joins (kind : JoinKind) (joins : List Join) :
    (joins.flatMap (joinPieces kind)).filterMap Piece.operand? = [] := by
  rw [List.filterMap_flatMap, List.flatMap_eq_nil_iff]
  intro j _
  rfl

/-! ## Whole statements -/

/-- The pieces of a statement as nested groups. -/
theorem pieces_eq (s : Select) (d : Dialect) : s.pieces d =
    words "SELECT " :: (selectedPieces s.columns ++ ((words " FROM " :: sourcePieces s.root) ++
      (s.joins.flatMap (joinPieces s.joinKind) ++ wherePieces d s.conditions))) := by
  rw [Select.pieces]
  simp only [List.append_assoc, List.cons_append, selectedPieces, wherePieces]

theorem tidy_pieces (s : Select) (d : Dialect) : tidy d (s.pieces d) = true := by
  obtain ⟨hbreaks, hconditions⟩ := tidy_wherePieces d s.conditions
  obtain ⟨hbreaks', hjoins⟩ := tidy_flatMap (breaks_joinPieces s.joinKind)
    (tidy_joinPieces d s.joinKind) s.joins
  have hroot : tidy d (words " FROM " :: sourcePieces s.root) = true := by cases d <;> rfl
  rw [pieces_eq, tidy_words (by cases d <;> rfl)]
  -- every group begins with a break, so it ends the one before it
  exact tidy_append (tidy_selectedPieces d s.columns) rfl
    (tidy_append hroot (breaks_append hbreaks hbreaks') (tidy_append hjoins hbreaks hconditions))

theorem tokensFrom_pieces (s : Select) (d : Dialect) :
    tokensFrom d 1 (s.pieces d) = (s.outline d).tokens d := by
  have hselect : tokensOf d.quoteMark "SELECT ".toList = [.word "SELECT"] := by cases d <;> rfl
  have hroot : ∀ number, tokensFrom d number (words " FROM " :: sourcePieces s.root) =
      .word "FROM" :: sourceTokens s.root := by
    intro number
    cases d <;> rfl
  have hjoins : ∀ number, tokensFrom d number (s.joins.flatMap (joinPieces s.joinKind)) =
      (s.joins.map (s.joinKind, ·)).flatMap joinTokens := by
    intro number
    rw [List.flatMap_map]
    exact tokensFrom_flatMap (tokensFrom_joinPieces d s.joinKind) (fun _ => rfl) s.joins number
  have hnone : (words " FROM " :: sourcePieces s.root).filterMap Piece.operand? = [] := rfl
  -- columns and tables take no number, so the conditions start with the first one
  rw [pieces_eq, tokensFrom, hselect, tokensFrom_append, tokensFrom_selectedPieces,
    operands_selectedPieces, tokensFrom_append, hroot, hnone, tokensFrom_append, hjoins,
    operands_joins, tokensFrom_wherePieces]
  rfl

theorem toList_text (s : Select) (d : Dialect) :
    (s.statement d).text.toList = textFrom d 1 (s.pieces d) := String.toList_ofList

/-- The text of a statement is read as the tokens of its outline. -/
theorem tokens?_statement (s : Select) (d : Dialect) :
    tokens? d.quoteMark (s.statement d).text.toList = some ((s.outline d).tokens d) := by
  rw [toList_text, tokens?_textFrom (tidy_pieces s d), tokensFrom_pieces]

/-- The text of a statement is read back as the outline of the statement. -/
theorem ofText?_statement (s : Select) (d : Dialect) :
    Outline.ofText? d.quoteMark (s.statement d).text = some (s.outline d) := by
  rw [Outline.ofText?, tokens?_statement]
  exact Outline.ofTokens?_tokens d _

/-- The mark around identifiers is the character after the first word. -/
theorem quoteMark_of_text (hne : s.columns ≠ []) (d : Dialect) :
    (s.statement d).text.toList[7]? = some d.quoteMark := by
  rw [toList_text, pieces_eq]
  cases hcolumns : s.columns with
  | nil => exact absurd hcolumns hne
  | cons q columns =>
    rw [selectedPieces_cons]
    rfl

/-! ## The text of a plan -/

/-- A joined node as a text shows it, with the node that it is joined to. -/
def ShowsJoin (t : JoinTree) (kind : JoinKind) (n : JoinNode) (entry : JoinKind × Join) : Prop :=
  ∃ parent ∈ t.nodes, ∃ edge, n.arrival = some ⟨parent.id, edge⟩ ∧
    entry = (kind, ⟨⟨n.table, n.aliasName⟩, edge.targetColumn,
      ⟨parent.aliasName, edge.sourceColumn⟩⟩)

/-- An outline shows a plan: all of its columns and tables, and its conditions without operands. -/
structure Shows (p : Plan) (kind : JoinKind) (o : Outline) : Prop where
  selected : o.selected = p.selections.map fun s => ⟨s.column.aliasName, s.column.column⟩
  root : o.root = ⟨p.joins.root.table, p.joins.root.aliasName⟩
  joins : List.Forall₂ (ShowsJoin p.joins kind) p.joins.joined o.joins
  tests : List.Forall₂ (fun q entry => entry.1 = ⟨q.column.aliasName, q.column.column⟩ ∧
    entry.2.kind = q.condition.kind) p.predicates o.tests

/-- Joined nodes with the same number, table and parent, and with the same join condition. -/
structure SameJoin (n n' : JoinNode) : Prop where
  id_eq : n.id = n'.id
  table_eq : n.table = n'.table
  arrivals : ∃ parent edge edge', n.arrival = some ⟨parent, edge⟩ ∧
    n'.arrival = some ⟨parent, edge'⟩ ∧ edge.targetColumn = edge'.targetColumn ∧
    edge.sourceColumn = edge'.sourceColumn

/-- Plans that read the same columns from the same tables, joined in the same way, under conditions
that differ in their operands only. -/
structure SameStructure (p : Plan) (kind : JoinKind) (p' : Plan) (kind' : JoinKind) : Prop where
  columns : p.selections.map (·.column) = p'.selections.map (·.column)
  root_table : p.joins.root.table = p'.joins.root.table
  joins : List.Forall₂ SameJoin p.joins.joined p'.joins.joined
  kinds : p.joins.joined ≠ [] → kind = kind'
  predicates : List.Forall₂ (fun q q' => q.column = q'.column ∧
    q.condition.kind = q'.condition.kind) p.predicates p'.predicates

theorem shows_tests (d : Dialect) (number : Nat) (predicates : List Predicate) :
    List.Forall₂ (fun (q : Predicate) (entry : QualifiedColumn × Test) =>
        entry.1 = ⟨q.column.aliasName, q.column.column⟩ ∧ entry.2.kind = q.condition.kind)
      predicates (testsFrom d number (predicates.map fun q => (qualify q.column, q.condition))) := by
  induction predicates generalizing number with
  | nil => exact .nil
  | cons q predicates ih => exact .cons ⟨rfl, kind_testOf d number q.condition⟩ (ih _)

/-- The outline of its statement shows a plan. -/
theorem shows_outline {c : Catalog} {start : Entity} {p : Plan}
    (hg : JoinTree.Grounded c start p.joins) (d : Dialect) (kind : JoinKind) :
    Shows p kind ((p.select kind).outline d) where
  selected := rfl
  root := rfl
  joins := by
    refine List.forall₂_map_right_iff.mpr ((joinOf_joined hg).imp ?_)
    rintro n j ⟨parent, edge, e, target, h, rfl⟩
    exact ⟨parent, h.parent_mem, edge, h.hangs.arrival_eq, rfl⟩
  tests := shows_tests d 1 p.predicates

/-- A number can be read off its alias, so columns are the same if they are the same in a statement. -/
theorem eq_of_qualify_eq {column column' : ColumnRef} (halias : column.aliasName = aliasOf column.node)
    (halias' : column'.aliasName = aliasOf column'.node) (h : qualify column = qualify column') :
    column = column' := by
  obtain ⟨hsame, hcolumn⟩ := QualifiedColumn.mk.inj h
  have hnode : column.node = column'.node := by
    rw [halias, halias'] at hsame
    exact aliasOf_injective hsame
  cases column
  cases column'
  simp only [ColumnRef.mk.injEq]
  exact ⟨hnode, hsame, hcolumn⟩

/-- A text shows one join condition and one alias of a joined node. -/
theorem SameJoin.of_shows {t t' : JoinTree} (ht : ∀ n ∈ t.nodes, n.aliasName = aliasOf n.id)
    (ht' : ∀ n ∈ t'.nodes, n.aliasName = aliasOf n.id) {n n' : JoinNode} (hn : n ∈ t.nodes)
    (hn' : n' ∈ t'.nodes) {entry : JoinKind × Join} (h : ShowsJoin t kind n entry)
    (h' : ShowsJoin t' kind' n' entry) : SameJoin n n' ∧ kind = kind' := by
  obtain ⟨parent, hmem, edge, harrival, rfl⟩ := h
  obtain ⟨parent', hmem', edge', harrival', heq⟩ := h'
  simp only [Prod.mk.injEq, Join.mk.injEq, Source.mk.injEq, QualifiedColumn.mk.injEq, ht n hn,
    ht' n' hn', ht parent hmem, ht' parent' hmem'] at heq
  obtain ⟨hkind, ⟨htable, halias⟩, htarget, hparent, hsource⟩ := heq
  rw [← aliasOf_injective hparent] at harrival'
  exact ⟨⟨aliasOf_injective halias, htable, parent.id, edge, edge', harrival, harrival', htarget,
    hsource⟩, hkind⟩

/-- The columns that an outline shows are those of the selections, with the aliases of their numbers. -/
theorem Shows.selected_aliased {p : Plan} {o : Outline} (h : Shows p kind o) (hp : Catalog.Aliased p) :
    List.Forall₂ (fun (s : Selection) q => s.column.aliasName = aliasOf s.column.node ∧
      qualify s.column = q) p.selections o.selected := by
  refine (List.forall₂_and_left _ _).mpr ⟨hp.selections, ?_⟩
  rw [h.selected]
  exact List.forall₂_map_right_iff.mpr (List.forall₂_same.mpr fun _ _ => rfl)

/-- Plans that the same outline shows have the same structure. -/
theorem Shows.sameStructure {p p' : Plan} (hp : Catalog.Aliased p) (hp' : Catalog.Aliased p')
    {o : Outline} (h : Shows p kind o) (h' : Shows p' kind' o) : SameStructure p kind p' kind' := by
  have hjoins : List.Forall₂ (fun n n' => SameJoin n n' ∧ kind = kind') p.joins.joined
      p'.joins.joined := by
    have hshown := (List.forall₂_and_left _ _).mpr
      ⟨fun n hn => List.mem_cons_of_mem p.joins.root hn, h.joins⟩
    have hshown' := (List.forall₂_and_left _ _).mpr
      ⟨fun n hn => List.mem_cons_of_mem p'.joins.root hn, h'.joins⟩
    refine forall₂_trans ?_ hshown hshown'.flip
    rintro n entry n' ⟨hn, hentry⟩ ⟨hn', hentry'⟩
    exact SameJoin.of_shows hp.nodes hp'.nodes hn hn' hentry hentry'
  refine ⟨?_, ?_, hjoins.imp fun _ _ h => h.1, ?_, ?_⟩
  · refine map_eq_of_forall₂ (fun _ _ hsame => hsame)
      (forall₂_trans ?_ (h.selected_aliased hp) (h'.selected_aliased hp').flip)
    rintro s q s' ⟨hs, hq⟩ ⟨hs', hq'⟩
    exact eq_of_qualify_eq hs hs' (hq.trans hq'.symm)
  · exact (Source.mk.inj (h.root.symm.trans h'.root)).1
  · intro hne
    obtain ⟨n, hn⟩ := List.exists_mem_of_ne_nil _ hne
    obtain ⟨n', -, hsame⟩ := exists_partner hjoins.flip hn
    exact hsame.2
  · have htests := (List.forall₂_and_left _ _).mpr ⟨hp.predicates, h.tests⟩
    have htests' := (List.forall₂_and_left _ _).mpr ⟨hp'.predicates, h'.tests⟩
    refine forall₂_trans ?_ htests htests'.flip
    rintro q entry q' ⟨hq, hcolumn, hkind⟩ ⟨hq', hcolumn', hkind'⟩
    exact ⟨eq_of_qualify_eq hq hq' (hcolumn.symm.trans hcolumn'), hkind.symm.trans hkind'⟩

variable {c c' : Catalog} {spec spec' : QuerySpec} {p p' : Plan}

theorem columns_ne_nil_of_plan (h : c.plan spec = .ok p) (kind : JoinKind) :
    (p.select kind).columns ≠ [] := by
  obtain ⟨start, h⟩ := Catalog.plan_spec h
  intro hnil
  have hselections := h.selections
  rw [List.map_eq_nil_iff.mp hnil, List.forall₂_nil_right_iff] at hselections
  exact h.nonempty hselections

/-- The text of a plan, in every dialect and for both kinds of join, is read as tokens that show the
plan, with every name as it is. No other plan has this text, unless it has the same structure. -/
theorem decodes_of_plan (h : c.plan spec = .ok p) (d : Dialect) (kind : JoinKind) :
    ∃ o : Outline,
      tokens? d.quoteMark ((p.select kind).statement d).text.toList = some (o.tokens d) ∧
      Outline.ofText? d.quoteMark ((p.select kind).statement d).text = some o ∧ Shows p kind o ∧
      ∀ (c' : Catalog) (spec' : QuerySpec) (p' : Plan) (d' : Dialect) (kind' : JoinKind),
        c'.plan spec' = .ok p' →
        ((p'.select kind').statement d').text = ((p.select kind).statement d).text →
        SameStructure p kind p' kind' := by
  obtain ⟨start, hplanned⟩ := Catalog.plan_spec h
  have hshows := shows_outline hplanned.grounded d kind
  refine ⟨(p.select kind).outline d, tokens?_statement _ d, ofText?_statement _ d, hshows, ?_⟩
  intro c' spec' p' d' kind' h' htext
  obtain ⟨start', hplanned'⟩ := Catalog.plan_spec h'
  -- both texts have the mark of their dialect in one place
  have hmark : d'.quoteMark = d.quoteMark := by
    have hmark := quoteMark_of_text (columns_ne_nil_of_plan h' kind') d'
    rw [htext, quoteMark_of_text (columns_ne_nil_of_plan h kind) d] at hmark
    exact (Option.some.inj hmark).symm
  have houtline : (p'.select kind').outline d' = (p.select kind).outline d := by
    have houtline := ofText?_statement (p'.select kind') d'
    rw [htext, hmark, ofText?_statement] at houtline
    exact (Option.some.inj houtline).symm
  have hshows' := shows_outline hplanned'.grounded d' kind'
  rw [houtline] at hshows'
  exact Shows.sameStructure hplanned.aliased hplanned'.aliased hshows hshows'

end Sql

namespace Staff

/-- Persons with their rooms. The names of the table and of the columns of the join condition have
marks, placeholders and words of statements in them. -/
def office : Catalog where
  entities := [
    ((Entity.ofName "person").withTable "staff\" AS \"t0\", \"wages" |>.addField "name" .text).addLink
      "room" ⟨"room", "$1 = \"\"?", "\" OR 1 = 1 --", .one⟩,
    ((Entity.ofName "room").withTable "SELECT ?").addField "number" .integer]

/-- The names of those in a room. -/
def inRoom (label : String) (number : Int64) : QuerySpec where
  table := "person"
  fields := [⟨ownName, some label⟩]
  filters := [⟨⟨["room"], "number", by decide⟩, .exactly, .int number⟩]

theorem decodes_of_plan_inRoom :
    ∃ p p', office.plan (inRoom "a\" FROM" 7) = .ok p ∧ office.plan (inRoom "b" 8) = .ok p' ∧
      ((p'.select .left).statement .duckdb).text = ((p.select .left).statement .sqlite).text ∧
      (∃ o, Sql.Outline.ofText? '"' ((p.select .left).statement .sqlite).text = some o ∧
        Sql.Shows p .left o) ∧ Sql.SameStructure p .left p' .left := by
  obtain ⟨p, hp⟩ : ∃ p, office.plan (inRoom "a\" FROM" 7) = .ok p := ⟨_, rfl⟩
  obtain ⟨p', hp'⟩ : ∃ p', office.plan (inRoom "b" 8) = .ok p' := ⟨_, rfl⟩
  have htext : ((p'.select .left).statement .duckdb).text =
      ((p.select .left).statement .sqlite).text := by
    cases hp
    cases hp'
    rfl
  obtain ⟨o, -, ho, hshows, hsame⟩ := Sql.decodes_of_plan hp .sqlite .left
  exact ⟨p, p', hp, hp', htext, ⟨o, ho, hshows⟩, hsame _ _ _ _ _ hp' htext⟩

end Staff

end DottedQuery
