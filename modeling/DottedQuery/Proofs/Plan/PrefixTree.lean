/-
# DottedQuery.Proofs.Plan.PrefixTree -- a plan is the prefix tree of its query

The paths of a query begin with chains of relationship names. A plan joins one table for each such
chain and no others: `PrefixTree` says this of the nodes, of the columns that stand for the paths, and
of the relationships that lead from the root to them. It says nothing about the order of the nodes,
and nothing about what a database holds.

`prefixTree_of_plan` reads all of it off what planning comes to. That dotted texts of routes are
distinct needs that names in paths are identifiers, since routes that differ could have the same text
if a name held a dot.
-/
import DottedQuery.Proofs.Plan.Placement
import DottedQuery.Proofs.Spec.Dotted
import DottedQuery.Proofs.Staff

namespace DottedQuery

variable {c : Catalog} {spec : QuerySpec} {p : Plan} {start : Entity} {t : JoinTree}
  {column : ColumnRef} {n : JoinNode} {r : Resolution} {path : FieldPath}

/-! ## What a plan has to be -/

/-- The column of a path: the field at its end, in the node whose route is its relationships. The
way down to this node is the way that resolving the path takes. -/
structure ColumnOf (c : Catalog) (root : String) (t : JoinTree) (path : FieldPath)
    (column : ColumnRef) : Prop where
  node : ∃ n r, t.node? column.node = some n ∧ n.id = column.node ∧
    column.aliasName = n.aliasName ∧ n.route = path.relationships ∧
    c.resolve root path = .ok r ∧ ∀ edges, t.Descends edges n ↔ edges = r.hops
  column_eq : column.column = path.field

/-- A node is for the target of the relationship that leads to it, in the table of this entity. -/
def Targets (c : Catalog) (n : JoinNode) : Prop :=
  ∃ arrival e, n.arrival = some arrival ∧ c.entity? arrival.edge.target = some e ∧
    n.entity = arrival.edge.target ∧ n.table = e.tableName

/-- A plan is the prefix tree of the paths of its query. -/
structure PrefixTree (c : Catalog) (spec : QuerySpec) (p : Plan) : Prop where
  root : ∃ e, c.entity? spec.table = some e ∧ p.joins.root = ⟨0, none, e.name, e.tableName, "t0", []⟩
  routes : ∀ route, (∃ n ∈ p.joins.joined, n.route = route) ↔
    route ≠ [] ∧ ∃ path ∈ spec.paths, route <+: path.relationships
  distinct_routes : (p.joins.nodes.map (·.route)).Nodup
  distinct_keys : (p.joins.nodes.map (·.routeKey)).Nodup
  distinct_aliases : (p.joins.nodes.map (·.aliasName)).Nodup
  targets : ∀ n ∈ p.joins.joined, Targets c n
  selections : List.Forall₂ (fun field s =>
    s.path = field.path ∧ ColumnOf c spec.table p.joins field.path s.column)
    spec.fields p.selections
  predicates : List.Forall₂ (fun filter q =>
    q.path = filter.path ∧ ColumnOf c spec.table p.joins filter.path q.column)
    spec.filters p.predicates

/-! ## Nodes -/

/-- The names on the way to a node are names of a path, so they are identifiers. -/
theorem Catalog.Planned.identifiers (h : Catalog.Planned c spec p start)
    (hn : n ∈ p.joins.nodes) : ∀ s ∈ n.route, isIdentifier s = true := by
  intro s hs
  have hroute : n.route ∈ spec.routes := (h.mem_routes n.route).mp (List.mem_map_of_mem hn)
  obtain ⟨path, -, hbegins⟩ := QuerySpec.mem_routes.mp hroute
  exact path.identifiers s (List.mem_append_left _ (hbegins.subset hs))

/-- Routes that differ have texts that differ. -/
theorem Catalog.Planned.distinct_keys (h : Catalog.Planned c spec p start) :
    (p.joins.nodes.map (·.routeKey)).Nodup := by
  refine List.Nodup.map_on ?_ (List.Nodup.of_map _ h.grounded.sound.distinct)
  intro n hn m hm hkey
  exact h.grounded.sound.eq_of_route hn hm
    (dotted_injective (h.identifiers hn) (h.identifiers hm) hkey)

/-- The joined nodes have the routes of the query but for the empty one, which is the root's. -/
theorem Catalog.Planned.mem_joined_routes (h : Catalog.Planned c spec p start)
    (route : List String) : (∃ n ∈ p.joins.joined, n.route = route) ↔
      route ≠ [] ∧ ∃ path ∈ spec.paths, route <+: path.relationships := by
  rw [← QuerySpec.mem_routes, ← h.mem_routes]
  constructor
  · rintro ⟨n, hn, rfl⟩
    exact ⟨h.grounded.sound.route_ne_nil hn, List.mem_map_of_mem (List.mem_cons_of_mem _ hn)⟩
  · rintro ⟨hne, hroute⟩
    obtain ⟨n, hn, rfl⟩ := List.mem_map.mp hroute
    exact ⟨n, h.grounded.sound.mem_joined hn hne, rfl⟩

/-- The entity that a joined node stands for is known under the name its relationship gives. -/
theorem JoinTree.Grounded.targets (hg : JoinTree.Grounded c start t) (hn : n ∈ t.joined) :
    Targets c n := by
  obtain ⟨parent, edge, e, target, h⟩ := hg.crossing hn
  obtain ⟨hops, -, hnode⟩ := h.stands
  exact ⟨⟨parent.id, edge⟩, target, h.hangs.arrival_eq, h.target_eq, h.hangs.entity_eq,
    hnode.table_eq⟩

/-! ## Columns -/

/-- A column that reads what a path resolves to is the column of this path. -/
theorem columnOf_of_reads (hs : t.Sound) {root : String} (hr : c.resolve root path = .ok r)
    (h : Catalog.Reads c start t r column n) : ColumnOf c root t path column := by
  refine ⟨⟨n, r, h.node_eq, hs.id_of_node? h.node_eq, h.alias_eq, h.route_eq hr, hr, ?_⟩,
    h.field_eq hr⟩
  intro edges
  constructor
  · intro hedges
    exact hedges.unique hs h.stands.descends
  · rintro rfl
    exact h.stands.descends

/-! ## The plan -/

/-- Every plan is the prefix tree of the paths of its query. -/
theorem prefixTree_of_plan (h : c.plan spec = .ok p) : PrefixTree c spec p := by
  obtain ⟨start, h⟩ := Catalog.plan_spec h
  have hs : p.joins.Sound := h.grounded.sound
  exact {
    root := ⟨start, h.start_eq, h.root_eq⟩
    routes := h.mem_joined_routes
    distinct_routes := hs.distinct
    distinct_keys := h.distinct_keys
    distinct_aliases := hs.distinct_aliases
    targets := fun n hn => h.grounded.targets hn
    selections := h.selections.imp fun field s ⟨r, n, hr, hreads, hpath, _⟩ =>
      ⟨hpath, columnOf_of_reads hs hr hreads⟩
    predicates := h.predicates.imp fun filter q ⟨r, n, hr, hreads, hpath, _⟩ =>
      ⟨hpath, columnOf_of_reads hs hr hreads⟩ }

namespace Staff

/-- One table in three roles: the first path makes two of them, and the filter reuses one. -/
theorem prefixTree_of_plan_query :
    ∃ p, catalog.plan query = .ok p ∧ p.joins.routes = [[], ["boss"], ["boss", "boss"]] ∧
      PrefixTree catalog query p := by
  refine ⟨_, rfl, ?_, prefixTree_of_plan rfl⟩
  rfl

end Staff

end DottedQuery
