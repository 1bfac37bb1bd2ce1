/-
# DottedQuery.Proofs.Sql.Scope -- statements of plans are well scoped

`Layout` is the shape that the clauses of a statement have: columns, the first table, joined tables
with one join condition each, and the columns of conditions. `layoutOf` is the shape that a plan asks
for, and the clauses of its statement are those (`clauses_layoutOf`). `Layout.WellScoped` says that the
root comes first and every other node of the tree has one join, that aliases are introduced once and
before they are used in a join condition, and that every column is a declared field of the entity that
its alias stands for.

`wellScoped_of_plan` puts together what four parts of the program guarantee. Building a catalog has
checked the columns of both sides of a relationship; planning has found the fields of the paths; the
tree has a parent before its children; and the pieces of the statement follow the order of the tree.
-/
import DottedQuery.Proofs.Catalog.Build
import DottedQuery.Proofs.Plan.PrefixTree
import DottedQuery.Proofs.Sql.Clauses

namespace DottedQuery

open JoinTree (Crossing Grounded Stands)

variable {c : Catalog} {entities : List Entity} {spec : QuerySpec} {p : Plan} {start : Entity}
  {t : JoinTree} {n : JoinNode} {q : Sql.QualifiedColumn}

namespace Sql

/-! ## The shape of a statement -/

/-- A joined table and the two columns that its join condition equates. -/
structure Joined where
  source : Source
  column : QualifiedColumn
  partner : QualifiedColumn

/-- A statement as its clauses show it. -/
structure Layout where
  selected : List QualifiedColumn
  root : Source
  joined : List Joined
  filtered : List QualifiedColumn

namespace Layout

/-- The clauses of a statement of this shape. -/
def clauses (l : Layout) (kind : JoinKind) : List Clause :=
  l.selected.map .column ++ .source " FROM " l.root ::
    l.joined.flatMap (fun j => [.source (joinWords kind) j.source, .on j.column j.partner]) ++
    l.filtered.map .column

/-- The tables with their aliases, in the order of their introduction. -/
def sources (l : Layout) : List Source := l.root :: l.joined.map (·.source)

/-- All columns that are mentioned. -/
def columns (l : Layout) : List QualifiedColumn :=
  l.selected ++ l.joined.flatMap (fun j => [j.column, j.partner]) ++ l.filtered

/-- A column is a declared field of the entity for whose table its alias was introduced. -/
def Declared (c : Catalog) (t : JoinTree) (l : Layout) (q : QualifiedColumn) : Prop :=
  ∃ n ∈ t.nodes, ∃ e f, n.aliasName = q.aliasName ∧ c.entity? n.entity = some e ∧
    ⟨e.tableName, q.aliasName⟩ ∈ l.sources ∧ e.field? q.column = some f

/-- The tables are those of the nodes of the tree, aliases are introduced once and used after that, and
columns are fields. -/
structure WellScoped (c : Catalog) (t : JoinTree) (l : Layout) : Prop where
  root : l.root = ⟨t.root.table, t.root.aliasName⟩
  joined : l.joined.map (·.source) = t.joined.map fun n => ⟨n.table, n.aliasName⟩
  once : (l.sources.map (·.aliasName)).Nodup
  introduced : ∀ q ∈ l.selected ++ l.filtered, q.aliasName ∈ l.sources.map (·.aliasName)
  joins : ∀ earlier j later, l.joined = earlier ++ j :: later →
    j.column.aliasName = j.source.aliasName ∧
      j.partner.aliasName ∈ (l.root :: earlier.map (·.source)).map (·.aliasName)
  declared : ∀ q ∈ l.columns, Declared c t l q

end Layout

/-! ## The joins of a plan -/

/-- The join that leads to a node of the tree of a plan. -/
def JoinOf (c : Catalog) (start : Entity) (t : JoinTree) (n : JoinNode) (j : Join) : Prop :=
  ∃ parent edge e target, Crossing c start t n parent edge e target ∧
    j = ⟨⟨n.table, n.aliasName⟩, edge.targetColumn, ⟨parent.aliasName, edge.sourceColumn⟩⟩

/-- Every joined node has its join, and the joins are in the order of the nodes. -/
theorem joinOf_joined (hg : Grounded c start t) :
    List.Forall₂ (JoinOf c start t) t.joined (t.joined.filterMap (join? t)) := by
  refine forall₂_filterMap fun n hn => ?_
  obtain ⟨parent, edge, e, target, h⟩ := hg.crossing hn
  refine ⟨_, ?_, parent, edge, e, target, h, rfl⟩
  rw [join?, h.hangs.arrival_eq, Option.map_some, JoinTree.node_of_node? h.hangs.parent_eq]

/-- A join with the columns of its condition. -/
def Join.joined (j : Join) : Joined := ⟨j.source, ⟨j.source.aliasName, j.targetColumn⟩, j.partner⟩

/-- The shape of the statement of a plan. -/
def layoutOf (p : Plan) : Layout where
  selected := p.selections.map fun s => qualify s.column
  root := ⟨p.joins.root.table, p.joins.root.aliasName⟩
  joined := (p.joins.joined.filterMap (join? p.joins)).map Join.joined
  filtered := p.predicates.map fun q => qualify q.column

theorem clauses_layoutOf (hne : p.selections ≠ []) (d : Dialect) (kind : JoinKind) :
    clauses ((p.select kind).pieces d) = (layoutOf p).clauses kind := by
  rw [clauses_pieces (by simpa [Plan.select] using hne), Layout.clauses]
  simp only [layoutOf, Plan.select, List.map_map, List.flatMap_map]
  rfl

/-- Every joined node has one join, in the order of the nodes. -/
theorem joined_layoutOf (hg : Grounded c start p.joins) :
    (layoutOf p).joined.map (·.source) = p.joins.joined.map fun n => ⟨n.table, n.aliasName⟩ := by
  rw [layoutOf, List.map_map]
  refine (map_eq_of_forall₂ ?_ (joinOf_joined hg)).symm
  rintro n j ⟨parent, edge, e, target, -, rfl⟩
  rfl

/-- Every node has its table and its alias among the sources, and nothing else does. -/
theorem sources_layoutOf (hg : Grounded c start p.joins) :
    (layoutOf p).sources = p.joins.nodes.map fun n => ⟨n.table, n.aliasName⟩ := by
  rw [JoinTree.nodes, List.map_cons, Layout.sources, joined_layoutOf hg]
  rfl

/-! ## Declared columns -/

/-- The column of a path in a statement: the alias of its node and the name of its field. -/
theorem qualify_of_reads {root : String} {path : FieldPath} {r : Resolution}
    (hr : c.resolve root path = .ok r) {column : ColumnRef}
    (h : Catalog.Reads c start t r column n) : qualify column = ⟨n.aliasName, path.field⟩ := by
  rw [qualify, h.alias_eq, h.field_eq hr]

/-- A field of the entity that a node stands for is declared under the alias of the node. -/
theorem declared_of_stands (hg : Grounded c start p.joins) (hstart : c.entity? start.name = some start)
    (hn : n ∈ p.joins.nodes) {hops : List Relationship} {e : Entity}
    (h : Stands c start p.joins n hops e) {column : String} {f : Field}
    (hf : e.field? column = some f) : Layout.Declared c p.joins (layoutOf p) ⟨n.aliasName, column⟩ := by
  refine ⟨n, hn, e, f, rfl, ?_, ?_, hf⟩
  · rw [h.entity_eq]
    exact h.trail.knows hstart
  · rw [sources_layoutOf hg, ← h.table_eq]
    exact List.mem_map_of_mem hn

/-- The column that a path resolves to is declared. -/
theorem declared_of_reads (hg : Grounded c start p.joins) (hstart : c.entity? start.name = some start)
    {root : String} {path : FieldPath} {r : Resolution} (hr : c.resolve root path = .ok r)
    {column : ColumnRef} (h : Catalog.Reads c start p.joins r column n) :
    Layout.Declared c p.joins (layoutOf p) (qualify column) := by
  obtain ⟨-, -, hfield, -⟩ := Catalog.resolve_eq_ok_iff.mp hr
  rw [qualify_of_reads hr h]
  exact declared_of_stands hg hstart (JoinTree.mem_nodes_of_node? h.node_eq) h.stands hfield

/-- Both columns of a join condition are declared, if the catalog was built. -/
theorem declared_of_joinOf (hc : Catalog.build entities = .ok c) (hg : Grounded c start p.joins)
    (hstart : c.entity? start.name = some start) (hn : n ∈ p.joins.joined) {j : Join}
    (h : JoinOf c start p.joins n j) :
    Layout.Declared c p.joins (layoutOf p) j.joined.column ∧
      Layout.Declared c p.joins (layoutOf p) j.joined.partner := by
  obtain ⟨parent, edge, e, target, hcrossing, rfl⟩ := h
  obtain ⟨hops, hparent, hnode⟩ := hcrossing.stands
  have he : c.entity? e.name = some e := hparent.trail.knows hstart
  -- building has checked the source's column at the parent's entity and the target's at the node's
  obtain ⟨target', htarget', ⟨f, hf⟩, f', hf'⟩ := Catalog.joins_of_build hc he hcrossing.edge_eq
  rw [hcrossing.target_eq] at htarget'
  cases htarget'
  exact ⟨declared_of_stands hg hstart (List.mem_cons_of_mem _ hn) hnode hf',
    declared_of_stands hg hstart hcrossing.parent_mem hparent hf⟩

/-- Every column that the statement of a plan mentions is declared. -/
theorem declared_layoutOf (hc : Catalog.build entities = .ok c)
    (h : Catalog.Planned c spec p start) (hq : q ∈ (layoutOf p).columns) :
    Layout.Declared c p.joins (layoutOf p) q := by
  have hg : Grounded c start p.joins := h.grounded
  have hstart : c.entity? start.name = some start := Catalog.entity?_name h.start_eq
  rw [Layout.columns, List.mem_append, List.mem_append] at hq
  rcases hq with (hselected | hjoined) | hfiltered
  · obtain ⟨s, hs, rfl⟩ := List.mem_map.mp hselected
    obtain ⟨field, -, r, n, hr, hreads, -⟩ := exists_partner h.selections hs
    exact declared_of_reads hg hstart hr hreads
  · obtain ⟨joined, hmem, hq⟩ := List.mem_flatMap.mp hjoined
    obtain ⟨j, hj, rfl⟩ := List.mem_map.mp hmem
    obtain ⟨n, hn, hof⟩ := exists_partner (joinOf_joined hg) hj
    obtain ⟨hcolumn, hpartner⟩ := declared_of_joinOf hc hg hstart hn hof
    rcases List.mem_pair.mp hq with rfl | rfl
    · exact hcolumn
    · exact hpartner
  · obtain ⟨s, hs, rfl⟩ := List.mem_map.mp hfiltered
    obtain ⟨filter, -, r, n, hr, hreads, -⟩ := exists_partner h.predicates hs
    exact declared_of_reads hg hstart hr hreads

/-! ## The statement of a plan -/

/-- A join condition is on the alias that it comes with and on one before it. -/
theorem joins_layoutOf (hg : Grounded c start p.joins) {earlier later : List Joined} {j : Joined}
    (hcut : (layoutOf p).joined = earlier ++ j :: later) :
    j.column.aliasName = j.source.aliasName ∧
      j.partner.aliasName ∈ ((layoutOf p).root :: earlier.map (·.source)).map (·.aliasName) := by
  have hjoins : List.Forall₂ (fun n joined => ∃ j, JoinOf c start p.joins n j ∧ joined = j.joined)
      p.joins.joined (layoutOf p).joined := by
    refine List.forall₂_map_right_iff.mpr ((joinOf_joined hg).imp fun n j h => ?_)
    exact ⟨j, h, rfl⟩
  -- the nodes before the node of this join are those of the earlier joins, and the parent is one
  rw [hcut] at hjoins
  obtain ⟨before, n, after, hnodes, hbefore, j, ⟨parent, edge, e, target, h, rfl⟩, rfl⟩ :=
    forall₂_split hjoins
  refine ⟨rfl, ?_⟩
  have haliases : before.map (·.aliasName) = earlier.map (·.source.aliasName) := by
    refine map_eq_of_forall₂ ?_ hbefore
    rintro n joined ⟨j, ⟨parent, edge, e, target, -, rfl⟩, rfl⟩
    rfl
  have hparent : parent.aliasName ∈ (p.joins.root :: before).map (·.aliasName) :=
    List.mem_map_of_mem (hg.sound.parent_mem_before hnodes h.hangs)
  rw [List.map_cons, haliases] at hparent
  rwa [List.map_cons, List.map_map]

/-- In every dialect and for both kinds of join, the statement of a plan over a catalog that was checked
has the clauses that the plan asks for, and these are well scoped. The text of a statement consists of its
pieces, so the clauses are read off them. -/
theorem wellScoped_of_plan (hc : c.Checked) (h : c.plan spec = .ok p) (d : Dialect) (kind : JoinKind) :
    clauses ((p.select kind).pieces d) = (layoutOf p).clauses kind ∧
      (layoutOf p).WellScoped c p.joins := by
  obtain ⟨entities, hc⟩ := hc.exists_build
  obtain ⟨start, h⟩ := Catalog.plan_spec h
  have hg : Grounded c start p.joins := h.grounded
  have hne : p.selections ≠ [] := by
    intro hnil
    have hfields := h.selections
    rw [hnil, List.forall₂_nil_right_iff] at hfields
    exact h.nonempty hfields
  refine ⟨clauses_layoutOf hne d kind, rfl, joined_layoutOf hg, ?_, ?_, ?_, ?_⟩
  · rw [sources_layoutOf hg, List.map_map]
    exact hg.sound.distinct_aliases
  · intro q hq
    have hmem : q ∈ (layoutOf p).columns := by
      rw [Layout.columns, List.append_assoc]
      rcases List.mem_append.mp hq with hselected | hfiltered
      · exact List.mem_append_left _ hselected
      · exact List.mem_append_right _ (List.mem_append_right _ hfiltered)
    obtain ⟨n, -, e, f, -, -, hsource, -⟩ := declared_layoutOf hc h hmem
    exact List.mem_map.mpr ⟨_, hsource, rfl⟩
  · intro earlier j later hcut
    exact joins_layoutOf hg hcut
  · intro q hq
    exact declared_layoutOf hc h hq

end Sql

namespace Staff

/-- The catalog of persons was checked, so its one table may take part in a statement three times. -/
theorem wellScoped_of_plan_query :
    ∃ p, catalog.Checked ∧ catalog.plan query = .ok p ∧
      Sql.clauses ((p.select .left).pieces .mysql) = (Sql.layoutOf p).clauses .left ∧
      (Sql.layoutOf p).WellScoped catalog p.joins := by
  have hbuild : Catalog.build [person] = .ok catalog := rfl
  obtain ⟨p, hp⟩ : ∃ p, catalog.plan query = .ok p := ⟨_, rfl⟩
  exact ⟨p, .code hbuild, hp, Sql.wellScoped_of_plan (.code hbuild) hp .mysql .left⟩

end Staff

end DottedQuery
