/-
# DottedQuery.Proofs.Plan.Placement -- what a plan consists of

Planning resolves the paths of a query and then joins them one after the other to the tree of the
root alone. `plan_spec` says all of it at once: the tree of a plan is grounded in the catalog, its
routes are the prefixes of the relationship names of the paths and no others, and every selection and
every predicate is put on the column that its own path resolves to, at the node that stands for this
path's relationships.

The step is `placement_place`, one path joined to a tree that may have any number of nodes; the run
over a list of paths is `placement_placeAll`, by induction over the list.
-/
import DottedQuery.Proofs.Pairing
import DottedQuery.Proofs.Plan.Grounded
import DottedQuery.Proofs.Plan.Steps

namespace DottedQuery

/-! ## The paths of a query -/

/-- The paths of all fields, then those of all filters. -/
def QuerySpec.paths (spec : QuerySpec) : List FieldPath :=
  spec.fields.map (·.path) ++ spec.filters.map (·.path)

/-- The chains of relationship names with which paths of the query begin, the empty one among them. A
chain is listed once for each path that begins with it. -/
def QuerySpec.routes (spec : QuerySpec) : List (List String) :=
  spec.paths.flatMap fun path => path.relationships.inits

theorem QuerySpec.exists_mem_paths {spec : QuerySpec} {P : FieldPath → Prop} :
    (∃ path ∈ spec.paths, P path) ↔
      (∃ field ∈ spec.fields, P field.path) ∨ ∃ filter ∈ spec.filters, P filter.path := by
  simp only [QuerySpec.paths, List.mem_append, List.mem_map, or_and_right, exists_or,
    exists_exists_and_eq_and]

theorem QuerySpec.mem_routes {spec : QuerySpec} {route : List String} :
    route ∈ spec.routes ↔ ∃ path ∈ spec.paths, route <+: path.relationships := by
  rw [QuerySpec.routes, List.mem_flatMap]
  constructor
  · rintro ⟨path, hpath, hroute⟩
    exact ⟨path, hpath, (List.mem_inits _ _).mp hroute⟩
  · rintro ⟨path, hpath, hroute⟩
    exact ⟨path, hpath, (List.mem_inits _ _).mpr hroute⟩

/-- With a chain, all chains that it begins with are there. -/
theorem QuerySpec.mem_routes_of_prefix {spec : QuerySpec} {route p : List String} (hp : p <+: route)
    (hroute : route ∈ spec.routes) : p ∈ spec.routes := by
  obtain ⟨path, hpath, hbegins⟩ := QuerySpec.mem_routes.mp hroute
  exact QuerySpec.mem_routes.mpr ⟨path, hpath, hp.trans hbegins⟩

/-- The chain of a whole path. -/
theorem QuerySpec.relationships_mem_routes {spec : QuerySpec} {path : FieldPath}
    (h : path ∈ spec.paths) : path.relationships ∈ spec.routes :=
  QuerySpec.mem_routes.mpr ⟨path, h, List.prefix_rfl⟩

/-- Every path begins with the empty chain. -/
theorem QuerySpec.nil_mem_routes {spec : QuerySpec} (h : spec.fields ≠ []) : [] ∈ spec.routes := by
  obtain ⟨field, hfield⟩ := List.exists_mem_of_ne_nil _ h
  have hpath : field.path ∈ spec.paths := List.mem_append_left _ (List.mem_map_of_mem hfield)
  exact QuerySpec.mem_routes.mpr ⟨field.path, hpath, List.nil_prefix⟩

/-- A query with more paths has more chains. -/
theorem QuerySpec.routes_mono {spec spec' : QuerySpec} {route : List String}
    (h : ∀ path ∈ spec'.paths, path ∈ spec.paths) (hroute : route ∈ spec'.routes) :
    route ∈ spec.routes := by
  obtain ⟨path, hpath, hbegins⟩ := QuerySpec.mem_routes.mp hroute
  exact QuerySpec.mem_routes.mpr ⟨path, h path hpath, hbegins⟩

namespace Catalog

open JoinTree (Grounded Grows Joins Stands)

variable {c : Catalog} {start : Entity} {t : JoinTree} {spec : QuerySpec} {p : Plan}

/-! ## Placing paths -/

/-- A column is the one that a path resolves to, at the node that stands for its relationships. -/
structure Reads (c : Catalog) (start : Entity) (t : JoinTree) (r : Resolution) (column : ColumnRef)
    (n : JoinNode) : Prop where
  node_eq : t.node? column.node = some n
  alias_eq : column.aliasName = n.aliasName
  stands : Stands c start t n r.hops r.entity
  column_eq : column.column = r.field.name

theorem Reads.grows {t' : JoinTree} {r : Resolution} {column : ColumnRef} {n : JoinNode}
    (h : Reads c start t r column n) (hg : Grows t t') : Reads c start t' r column n :=
  ⟨hg.node? h.node_eq, h.alias_eq, h.stands.grows hg, h.column_eq⟩

/-- A column goes by the alias that its number has. -/
theorem Reads.alias_eq_aliasOf {r : Resolution} {column : ColumnRef} {n : JoinNode}
    (h : Reads c start t r column n) (hs : t.Sound) : column.aliasName = aliasOf column.node := by
  rw [h.alias_eq, hs.aliased n (JoinTree.mem_nodes_of_node? h.node_eq), hs.id_of_node? h.node_eq]

/-- The column of a path has the name of the path's field. -/
theorem Reads.field_eq {root : String} {path : FieldPath} {r : Resolution} {column : ColumnRef}
    {n : JoinNode} (h : Reads c start t r column n) (hr : c.resolve root path = .ok r) :
    column.column = path.field := by
  obtain ⟨-, -, hfield, -⟩ := resolve_eq_ok_iff.mp hr
  rw [h.column_eq]
  exact Entity.name_of_field? hfield

/-- The column of a path is in the node whose route is the path's relationships. -/
theorem Reads.route_eq {root : String} {path : FieldPath} {r : Resolution} {column : ColumnRef}
    {n : JoinNode} (h : Reads c start t r column n) (hr : c.resolve root path = .ok r) :
    n.route = path.relationships := by
  obtain ⟨-, hnames, -⟩ := resolve_eq_ok_iff.mp hr
  exact h.stands.route_eq.trans hnames

/-- The outcome of placing paths in a tree: the new tree and the columns of the paths. -/
structure Placement (c : Catalog) (start : Entity) (t : JoinTree) (rs : List Resolution)
    (t' : JoinTree) (columns : List ColumnRef) : Prop where
  grounded : Grounded c start t'
  grows : Grows t t'
  mem_routes : ∀ route, route ∈ t'.routes ↔
    route ∈ t.routes ∨ ∃ r ∈ rs, route <+: r.hops.map (·.name)
  reads : List.Forall₂ (fun r column => ∃ n, Reads c start t' r column n) rs columns

/-- One path joined to a tree. -/
theorem placement_place (hg : Grounded c start t) {r : Resolution}
    (hr : c.Trail start r.hops r.entity) :
    Placement c start t [r] (c.place t r).1 [(c.place t r).2] := by
  obtain ⟨asked, hasked, h⟩ := JoinTree.joins_joinFrom c.tableOf t 0 r.hops
  have hroot : t.node? 0 = some t.root := JoinTree.node?_zero t
  obtain ⟨hgrounded, m, hm, hst⟩ := h.grounded hg hasked hroot hg.stands_root hr
  refine ⟨hgrounded, h.grows, ?_, ?_⟩
  · intro route
    refine (h.mem_routes hg.sound hroot).trans (or_congr_right ?_)
    simp only [hg.sound.root_route, List.mem_singleton, exists_eq_left]
    constructor
    · rintro ⟨p, hp, rfl⟩
      exact hp
    · intro hp
      exact ⟨route, hp, rfl⟩
  · have hplaced : (c.place t r).2 = .ofNode m r.field.name :=
      congrArg (ColumnRef.ofNode · r.field.name) (JoinTree.node_of_node? hm)
    refine .cons ⟨m, ?_, ?_, hst, ?_⟩ .nil
    · rw [hplaced]
      exact hgrounded.sound.node?_of_mem (JoinTree.mem_nodes_of_node? hm)
    · rw [hplaced]
      rfl
    · rw [hplaced]
      rfl

/-- Paths joined to a tree one after the other. -/
theorem placement_placeAll (hg : Grounded c start t) {rs : List Resolution}
    (hrs : ∀ r ∈ rs, c.Trail start r.hops r.entity) :
    Placement c start t rs (c.placeAll t rs).1 (c.placeAll t rs).2 := by
  induction rs generalizing t with
  | nil =>
    refine ⟨hg, Grows.refl t, ?_, .nil⟩
    intro route
    constructor
    · exact Or.inl
    · rintro (h | ⟨r, hr, -⟩)
      · exact h
      · exact absurd hr List.not_mem_nil
  | cons r rs ih =>
    obtain ⟨hr, hrs⟩ := List.forall_mem_cons.mp hrs
    have hone := placement_place hg hr
    have hothers := ih hone.grounded hrs
    refine ⟨hothers.grounded, hone.grows.trans hothers.grows, ?_, ?_⟩
    · intro route
      refine (hothers.mem_routes route).trans ?_
      simp only [hone.mem_routes, List.mem_cons, List.not_mem_nil, exists_eq_or_imp, false_and,
        exists_false, false_or, or_assoc]
    · obtain ⟨⟨n, hn⟩, -⟩ := List.forall₂_cons.mp hone.reads
      exact .cons ⟨n, hn.grows hothers.grows⟩ hothers.reads

/-! ## Plans -/

/-- What planning a query comes to: the root and the tree, and for each field and each filter of the
query its selection or predicate, with the resolution of its path and the node of its column. -/
structure Planned (c : Catalog) (spec : QuerySpec) (p : Plan) (start : Entity) : Prop where
  start_eq : c.entity? spec.table = some start
  nonempty : spec.fields ≠ []
  grounded : Grounded c start p.joins
  root_eq : p.joins.root = (JoinTree.ofRoot start.name start.tableName).root
  mem_routes : ∀ route, route ∈ p.joins.routes ↔ route ∈ spec.routes
  selections : List.Forall₂ (fun field s => ∃ r n, c.resolve spec.table field.path = .ok r ∧
    Reads c start p.joins r s.column n ∧ s.path = field.path ∧ s.dataType = r.field.dataType ∧
    s.label = field.label) spec.fields p.selections
  predicates : List.Forall₂ (fun filter q => ∃ r n, c.resolve spec.table filter.path = .ok r ∧
    Reads c start p.joins r q.column n ∧ q.path = filter.path ∧
    filter.condition r.field.dataType = .ok q.condition) spec.filters p.predicates

/-- All aliases in a plan are those of the numbers that they stand beside. -/
structure Aliased (p : Plan) : Prop where
  nodes : ∀ n ∈ p.joins.nodes, n.aliasName = aliasOf n.id
  selections : ∀ s ∈ p.selections, s.column.aliasName = aliasOf s.column.node
  predicates : ∀ q ∈ p.predicates, q.column.aliasName = aliasOf q.column.node

theorem Planned.aliased (h : Planned c spec p start) : Aliased p where
  nodes := h.grounded.sound.aliased
  selections := by
    intro s hs
    obtain ⟨field, -, r, n, -, hreads, -⟩ := exists_partner h.selections hs
    exact hreads.alias_eq_aliasOf h.grounded.sound
  predicates := by
    intro q hq
    obtain ⟨filter, -, r, n, -, hreads, -⟩ := exists_partner h.predicates hq
    exact hreads.alias_eq_aliasOf h.grounded.sound

/-- Every path of the query resolves. -/
theorem Planned.exists_resolution (h : Planned c spec p start) {path : FieldPath}
    (hpath : path ∈ spec.paths) : ∃ r, c.resolve spec.table path = .ok r := by
  rcases List.mem_append.mp hpath with hfield | hfilter
  · obtain ⟨field, hmem, rfl⟩ := List.mem_map.mp hfield
    obtain ⟨s, -, r, n, hr, -⟩ := exists_partner h.selections.flip hmem
    exact ⟨r, hr⟩
  · obtain ⟨filter, hmem, rfl⟩ := List.mem_map.mp hfilter
    obtain ⟨q, -, r, n, hr, -⟩ := exists_partner h.predicates.flip hmem
    exact ⟨r, hr⟩

theorem resolveField_eq_ok_iff {root : String} {field : FieldSpec} {entry : FieldSpec × Resolution} :
    c.resolveField root field = .ok entry ↔
      entry.1 = field ∧ c.resolve root field.path = .ok entry.2 := by
  rw [resolveField, bind_eq_ok]
  constructor
  · rintro ⟨r, hr, h⟩
    cases h
    exact ⟨rfl, hr⟩
  · rintro ⟨rfl, hr⟩
    exact ⟨entry.2, hr, rfl⟩

theorem resolveFilter_eq_ok_iff {root : String} {filter : FilterSpec}
    {entry : Condition × Resolution} :
    c.resolveFilter root filter = .ok entry ↔ c.resolve root filter.path = .ok entry.2 ∧
      filter.condition entry.2.field.dataType = .ok entry.1 := by
  rw [resolveFilter, bind_eq_ok]
  constructor
  · rintro ⟨r, hr, h⟩
    obtain ⟨condition, hcondition, h⟩ := bind_eq_ok.mp h
    cases h
    exact ⟨hr, hcondition⟩
  · rintro ⟨hr, hcondition⟩
    exact ⟨entry.2, hr, bind_eq_ok.mpr ⟨entry.1, hcondition, rfl⟩⟩

/-- A list of resolutions that belong to entries has a trail for each. -/
theorem trails_of_resolved {α β : Type} {root : String} {path : α → FieldPath} {xs : List α}
    {entries : List (β × Resolution)} (hstart : c.entity? root = some start)
    (h : List.Forall₂ (fun x entry => c.resolve root (path x) = .ok entry.2) xs entries) :
    (∀ r ∈ entries.map (·.2), c.Trail start r.hops r.entity) ∧
      ∀ route, (∃ r ∈ entries.map (·.2), route <+: r.hops.map (·.name)) ↔
        ∃ x ∈ xs, route <+: (path x).relationships := by
  induction h with
  | nil =>
    refine ⟨fun r hr => absurd hr List.not_mem_nil, fun route => ?_⟩
    simp only [List.map_nil, List.not_mem_nil, false_and, exists_false]
  | @cons x entry xs entries hx _ ih =>
    obtain ⟨-, hnames, -, start', hstart', htrail⟩ := resolve_eq_ok_iff.mp hx
    rw [hstart] at hstart'
    cases hstart'
    constructor
    · rw [List.map_cons, List.forall_mem_cons]
      exact ⟨htrail, ih.1⟩
    · intro route
      simp only [List.map_cons, List.mem_cons, exists_eq_or_imp, ih.2 route, hnames]

/-- The steps of planning: something is requested, the root is known, the paths of all fields and
then of all filters resolve, and they are joined in this order. -/
theorem steps_of_plan (h : c.plan spec = .ok p) :
    ∃ start fields filters, spec.fields ≠ [] ∧ c.entity? spec.table = some start ∧
      List.Forall₂ (fun field entry => c.resolveField spec.table field = .ok entry) spec.fields
        fields ∧
      List.Forall₂ (fun filter entry => c.resolveFilter spec.table filter = .ok entry) spec.filters
        filters ∧
      let first := c.placeAll (JoinTree.ofRoot start.name start.tableName) (fields.map (·.2))
      let second := c.placeAll first.1 (filters.map (·.2))
      p = ⟨second.1, fields.zipWith selection first.2, filters.zipWith predicate second.2⟩ := by
  rw [plan_eq] at h
  split at h
  · cases h
  rename_i hempty
  have hnonempty : spec.fields ≠ [] := by
    intro hnil
    exact hempty (List.isEmpty_iff.mpr hnil)
  obtain ⟨start, hstart, h⟩ := bind_eq_ok.mp h
  obtain ⟨fields, hfields, h⟩ := bind_eq_ok.mp h
  obtain ⟨filters, hfilters, h⟩ := bind_eq_ok.mp h
  cases h
  exact ⟨start, fields, filters, hnonempty, requireEntity_eq_ok_iff.mp hstart,
    mapM_eq_ok.mp hfields, mapM_eq_ok.mp hfilters, rfl⟩

/-- There is a plan exactly when something is requested, the root is known, and each field and each
filter by itself can be resolved. -/
theorem exists_plan_iff : (∃ p, c.plan spec = .ok p) ↔ spec.fields ≠ [] ∧
    (∃ start, c.entity? spec.table = some start) ∧
    (∀ field ∈ spec.fields, ∃ entry, c.resolveField spec.table field = .ok entry) ∧
    ∀ filter ∈ spec.filters, ∃ entry, c.resolveFilter spec.table filter = .ok entry := by
  rw [← exists_mapM_eq_ok, ← exists_mapM_eq_ok]
  constructor
  · rintro ⟨p, hp⟩
    obtain ⟨start, fields, filters, hnonempty, hstart, hfields, hfilters, -⟩ := steps_of_plan hp
    exact ⟨hnonempty, ⟨start, hstart⟩, ⟨fields, mapM_eq_ok.mpr hfields⟩,
      ⟨filters, mapM_eq_ok.mpr hfilters⟩⟩
  · rintro ⟨hnonempty, ⟨start, hstart⟩, ⟨fields, hfields⟩, filters, hfilters⟩
    have hempty : ¬spec.fields.isEmpty = true := by
      rw [List.isEmpty_iff]
      exact hnonempty
    rw [plan_eq, if_neg hempty, requireEntity_eq_ok_iff.mpr hstart, hfields, hfilters]
    exact ⟨_, rfl⟩

/-- All that a plan consists of. -/
theorem plan_spec (h : c.plan spec = .ok p) : ∃ start, Planned c spec p start := by
  obtain ⟨start, fields, filters, hnonempty, hstart, hfields, hfilters, rfl⟩ := steps_of_plan h
  obtain ⟨htrails, hprefixes⟩ :=
    trails_of_resolved hstart (hfields.imp fun _ _ h => (resolveField_eq_ok_iff.mp h).2)
  obtain ⟨htrails', hprefixes'⟩ :=
    trails_of_resolved hstart (hfilters.imp fun _ _ h => (resolveFilter_eq_ok_iff.mp h).1)
  have hfirst := placement_placeAll (JoinTree.grounded_ofRoot c start) htrails
  have hsecond := placement_placeAll hfirst.grounded htrails'
  refine ⟨start, hstart, hnonempty, hsecond.grounded, ?_, ?_, ?_, ?_⟩
  · exact (hfirst.grows.trans hsecond.grows).root
  · intro route
    refine (hsecond.mem_routes route).trans ?_
    have hnil := QuerySpec.nil_mem_routes hnonempty
    rw [QuerySpec.mem_routes, QuerySpec.exists_mem_paths] at hnil
    rw [hfirst.mem_routes, hprefixes, hprefixes', QuerySpec.mem_routes,
      QuerySpec.exists_mem_paths, or_assoc]
    -- the route of the root is among the query's already
    refine or_iff_right_of_imp fun hroot => ?_
    rw [List.mem_singleton.mp hroot]
    exact hnil
  · refine forall₂_zipWith ?_ hfields ((List.forall₂_map_left_iff).mp hfirst.reads)
    rintro field entry column hfield ⟨n, hn⟩
    obtain ⟨rfl, hr⟩ := resolveField_eq_ok_iff.mp hfield
    refine ⟨entry.2, n, hr, hn.grows hsecond.grows, ?_, rfl, rfl⟩
    exact (resolve_eq_ok_iff.mp hr).1
  · refine forall₂_zipWith ?_ hfilters ((List.forall₂_map_left_iff).mp hsecond.reads)
    rintro filter entry column hfilter ⟨n, hn⟩
    obtain ⟨hr, hcondition⟩ := resolveFilter_eq_ok_iff.mp hfilter
    exact ⟨entry.2, n, hr, hn, (resolve_eq_ok_iff.mp hr).1, hcondition⟩

end Catalog

end DottedQuery
