/-
# DottedQuery.Proofs.Store.Hosting -- when a plan is answered

The statement of a plan mentions every table and every column that its query needs, so it cannot be
prepared over a database that lacks one of them. With the other direction, which is that nothing else
can go wrong, a plan is answered exactly when the database has what the query needs and the statement
has no more tables than it may have (`execute_succeeds_iff`). That is said of statements that keep
the database's other limits, on result columns, operands, text and depth of expressions, which
`Store.prepare` does not model: beyond one of them the database refuses the statement as well.

The condition speaks of the query and the records, and of the tree only through the number of its
nodes: neither the kind of join nor any alias is in it.
-/
import DottedQuery.Proofs.Store.Rows

namespace DottedQuery.RecordGraph

open JoinTree (Crossing Grounded Stands)
open Sql (Join JoinKind JoinOf joinOf_joined)
open Store (PreparedJoin Prepared Relation Scope Slot prepare prepareCondition prepareJoin prepareJoins
  slotIn tableLimit)

variable {g : RecordGraph} {spec spec' : QuerySpec} {p : Plan} {start e : Entity} {t : JoinTree}
  {n : JoinNode} {hops : List Relationship} {kind : JoinKind}

/-! ## Queries that need less -/

/-- A database that has what a query needs has what a query with fewer paths needs. -/
theorem Hosts.mono (h : g.Hosts spec) (hpaths : ∀ path ∈ spec'.paths, path ∈ spec.paths) :
    g.Hosts spec' where
  tables := fun route hroute => h.tables route (QuerySpec.routes_mono hpaths hroute)
  fields := fun path hpath => h.fields path (hpaths path hpath)
  joins := fun route name e edge target hroute =>
    h.joins route name e edge target (QuerySpec.routes_mono hpaths hroute)

/-! ## What was found -/

/-- A column that was looked up is in its table. -/
theorem isSome_of_slotIn {table : Nat} {r : Relation} {aliasName column : String} {slot : Slot}
    (h : slotIn table r ⟨aliasName, column⟩ = .ok slot) :
    (r.columnIndex? column).isSome = true := by
  rw [slotIn] at h
  cases hindex : r.columnIndex? column with
  | some i => rfl
  | none =>
    rw [hindex] at h
    cases h

/-- A table that was found under the name of a node's table is the node's. -/
theorem shown_of_relation (hstart : g.catalog.entity? g.root = some start)
    (hst : Stands g.catalog start t n hops e) {r : Relation} (h : g.db.relation n.table = .ok r) :
    g.Shown n e ∧ g.relationOf n = r := by
  have hentity : g.entityAt? n.route = some e := entityAt?_of_stands hstart hst
  have hfound : g.relation? e = some r := by
    rw [relation?, ← hst.table_eq, h]
    rfl
  have hrelation : g.relationOf n = r := by
    rw [relationOf, hentity, Option.bind_some, hfound]
    rfl
  exact ⟨⟨hentity, hrelation ▸ hfound, hrelation ▸ h⟩, hrelation⟩

/-- A node whose table has the column of its join, and whose parent's table has the other one. -/
def Joinable (g : RecordGraph) (start : Entity) (t : JoinTree) (n : JoinNode) : Prop :=
  ∃ parent edge e target, Crossing g.catalog start t n parent edge e target ∧ g.Shown n target ∧
    ((g.relationOf n).columnIndex? edge.targetColumn).isSome = true ∧
    ((g.relationOf parent).columnIndex? edge.sourceColumn).isSome = true

/-- One join that was prepared. -/
theorem joinable_of_prepareJoin (hstart : g.catalog.entity? g.root = some start) (hs : t.Sound)
    {before after : List JoinNode} (hcut : t.joined = before ++ n :: after) {j : Join}
    (hj : JoinOf g.catalog start t n j) {scope : Scope} {prepared : PreparedJoin}
    (h : prepareJoin g.db (g.scopeOf (t.root :: before)) j = .ok (scope, prepared)) :
    g.Joinable start t n ∧ scope = g.scopeOf (t.root :: before ++ [n]) := by
  obtain ⟨parent, edge, e, target, hcrossing, rfl⟩ := hj
  obtain ⟨r, hr, h⟩ := bind_eq_ok.mp h
  obtain ⟨slot, htarget, h⟩ := bind_eq_ok.mp h
  obtain ⟨slot', hpartner, h⟩ := bind_eq_ok.mp h
  cases h
  obtain ⟨hops, -, hnode⟩ := hcrossing.stands
  obtain ⟨hshown, rfl⟩ := shown_of_relation hstart hnode hr
  have hnodes : t.nodes = (t.root :: before) ++ n :: after := by
    rw [JoinTree.nodes, hcut]
    rfl
  rw [slot_scopeOf hs ⟨_, hnodes.symm⟩ (hs.parent_mem_before hcut hcrossing.hangs)] at hpartner
  refine ⟨⟨parent, edge, e, target, hcrossing, hshown, isSome_of_slotIn htarget,
    isSome_of_slotIn hpartner⟩, ?_⟩
  rw [scopeOf, scopeOf, List.map_append]
  rfl

/-- All joins that were prepared, one after the other. -/
theorem joinable_of_prepareJoins (hstart : g.catalog.entity? g.root = some start) (hs : t.Sound)
    {before after : List JoinNode} (hcut : t.joined = before ++ after) {joins : List Join}
    (hjoins : List.Forall₂ (JoinOf g.catalog start t) after joins) {scope : Scope}
    {prepared : List PreparedJoin}
    (h : prepareJoins g.db (g.scopeOf (t.root :: before)) joins = .ok (scope, prepared)) :
    (∀ n ∈ after, g.Joinable start t n) ∧ scope = g.scopeOf t.nodes := by
  induction hjoins generalizing before scope prepared with
  | nil =>
    cases h
    rw [List.append_nil] at hcut
    rw [JoinTree.nodes, hcut]
    exact ⟨fun n hn => absurd hn List.not_mem_nil, rfl⟩
  | @cons n j rest joins hj _ ih =>
    obtain ⟨⟨scope', first⟩, hfirst, h⟩ := bind_eq_ok.mp h
    obtain ⟨⟨scope'', others⟩, hothers, h⟩ := bind_eq_ok.mp h
    cases h
    obtain ⟨hjoinable, rfl⟩ := joinable_of_prepareJoin hstart hs hcut hj hfirst
    obtain ⟨hrest, hscope⟩ := ih (JoinTree.next_cut hcut) hothers
    exact ⟨List.forall_mem_cons.mpr ⟨hjoinable, hrest⟩, hscope⟩

/-- Everything that the statement of a plan mentions was found. -/
structure Found (g : RecordGraph) (start : Entity) (p : Plan) : Prop where
  shown : ∀ n ∈ p.joins.nodes, ∃ e, g.Shown n e
  joinable : ∀ n ∈ p.joins.joined, g.Joinable start p.joins n
  selections : ∀ s ∈ p.selections, ∃ slot,
    (g.scopeOf p.joins.nodes).slot (Sql.qualify s.column) = .ok slot
  predicates : ∀ q ∈ p.predicates, ∃ slot,
    (g.scopeOf p.joins.nodes).slot (Sql.qualify q.column) = .ok slot

theorem found_of_prepare (hp : Catalog.Planned g.catalog spec p start) (hroot : g.root = spec.table)
    {s : Prepared} (h : prepare g.db (p.select kind) = .ok s) :
    g.Found start p ∧ ¬tableLimit < p.joins.nodes.length := by
  have hg : Grounded g.catalog start p.joins := hp.grounded
  have hstart : g.catalog.entity? g.root = some start := hroot ▸ hp.start_eq
  rw [prepare, length_select_joins hg] at h
  split at h
  · cases h
  rename_i hlimit
  obtain ⟨r, hr, h⟩ := bind_eq_ok.mp h
  obtain ⟨⟨scope, joins⟩, hjoins, h⟩ := bind_eq_ok.mp h
  obtain ⟨columns, hcolumns, h⟩ := bind_eq_ok.mp h
  obtain ⟨conditions, hconditions, -⟩ := bind_eq_ok.mp h
  obtain ⟨hshown, rfl⟩ := shown_of_relation hstart hg.stands_root hr
  have hcut : p.joins.joined = [] ++ p.joins.joined := rfl
  obtain ⟨hjoinable, rfl⟩ := joinable_of_prepareJoins hstart hg.sound hcut (joinOf_joined hg) hjoins
  refine ⟨⟨?_, hjoinable, ?_, ?_⟩, hlimit⟩
  · refine List.forall_mem_cons.mpr ⟨⟨start, hshown⟩, fun n hn => ?_⟩
    obtain ⟨-, -, -, target, -, hshown, -⟩ := hjoinable n hn
    exact ⟨target, hshown⟩
  · intro sel hsel
    have hpairs := List.forall₂_map_left_iff.mp (mapM_eq_ok.mp hcolumns)
    obtain ⟨slot, -, hslot⟩ := exists_partner hpairs.flip hsel
    exact ⟨slot, hslot⟩
  · intro q hq
    have hpairs := List.forall₂_map_left_iff.mp (mapM_eq_ok.mp hconditions)
    obtain ⟨entry, -, hentry⟩ := exists_partner hpairs.flip hq
    obtain ⟨slot, hslot, -⟩ := bind_eq_ok.mp hentry
    exact ⟨slot, hslot⟩

/-! ## What has to be there -/

/-- A node has one entity. -/
theorem Shown.unique {e' : Entity} (h : g.Shown n e) (he : g.entityAt? n.route = some e') : e = e' :=
  Option.some.inj (h.entity_eq.symm.trans he)

/-- The column at the end of a path was found in the table of its node. -/
theorem Found.position? (h : g.Found start p) (hs : p.joins.Sound) {path : FieldPath} {r : Resolution}
    {column : ColumnRef} (hr : g.catalog.resolve spec.table path = .ok r)
    (hreads : Catalog.Reads g.catalog start p.joins r column n)
    (hslot : ∃ slot, (g.scopeOf p.joins.nodes).slot (Sql.qualify column) = .ok slot)
    (he : g.entityAt? path.relationships = some e) : (g.position? e path.field).isSome = true := by
  have hn : n ∈ p.joins.nodes := JoinTree.mem_nodes_of_node? hreads.node_eq
  obtain ⟨e', hshown⟩ := h.shown n hn
  obtain ⟨slot, hslot⟩ := hslot
  rw [Sql.qualify_of_reads hr hreads, slot_scopeOf hs List.prefix_rfl hn] at hslot
  rw [← hreads.route_eq hr] at he
  rw [← hshown.unique he, ← hshown.columnIndex?_eq]
  exact isSome_of_slotIn hslot

/-- If everything was found, the database has what the query needs. -/
theorem Found.hosts (h : g.Found start p) (hp : Catalog.Planned g.catalog spec p start)
    (hroot : g.root = spec.table) : g.Hosts spec where
  tables := by
    intro route hroute e he
    obtain ⟨n, hn, rfl⟩ := List.mem_map.mp ((hp.mem_routes route).mpr hroute)
    obtain ⟨e', hshown⟩ := h.shown n hn
    rw [← hshown.unique he, hshown.relation_eq]
    rfl
  fields := by
    intro path hpath e he
    have hs : p.joins.Sound := hp.grounded.sound
    rcases List.mem_append.mp hpath with hfield | hfilter
    · obtain ⟨field, hmem, rfl⟩ := List.mem_map.mp hfield
      obtain ⟨s, hsel, r, n, hr, hreads, -⟩ := exists_partner hp.selections.flip hmem
      exact h.position? hs hr hreads (h.selections s hsel) he
    · obtain ⟨filter, hmem, rfl⟩ := List.mem_map.mp hfilter
      obtain ⟨q, hq, r, n, hr, hreads, -⟩ := exists_partner hp.predicates.flip hmem
      exact h.position? hs hr hreads (h.predicates q hq) he
  joins := by
    intro route name e edge target hroute he hedge htarget
    obtain ⟨n, hn, hnroute⟩ := List.mem_map.mp ((hp.mem_routes _).mpr hroute)
    have hjoined : n ∈ p.joins.joined := by
      refine hp.grounded.sound.mem_joined hn ?_
      rw [hnroute]
      simp
    obtain ⟨parent, edge', e', target', hcrossing, hshown, htargetColumn, hsourceColumn⟩ :=
      h.joinable n hjoined
    obtain ⟨e'', hparent⟩ := h.shown parent hcrossing.parent_mem
    -- the parent of the node is the one at the shorter chain, and the relationship is the one named
    have hwhole : parent.route ++ [edge'.name] = route ++ [name] :=
      hcrossing.hangs.route_eq.symm.trans hnroute
    obtain ⟨rfl, hname⟩ := List.append_inj' hwhole rfl
    obtain rfl : e'' = e := hparent.unique he
    obtain ⟨hops, hst, -⟩ := hcrossing.stands
    obtain rfl : e'' = e' :=
      hparent.unique (entityAt?_of_stands (hroot ▸ hp.start_eq) hst)
    obtain rfl : edge' = edge := by
      have hboth := hcrossing.edge_eq
      rw [List.singleton_inj.mp hname, hedge] at hboth
      exact (Option.some.inj hboth).symm
    obtain rfl : target' = target := hshown.unique (hnroute ▸ htarget)
    rw [← hparent.columnIndex?_eq, ← hshown.columnIndex?_eq]
    exact ⟨hsourceColumn, htargetColumn⟩

/-! ## Answered plans -/

/-- A plan is answered exactly when the database has what its query needs and its statement does not
have too many tables. The limits that `Store.prepare` leaves out are taken to be kept. -/
theorem execute_succeeds_iff (hp : Catalog.Planned g.catalog spec p start)
    (hroot : g.root = spec.table) (kind : JoinKind) :
    (∃ rows, g.db.execute kind p = .ok rows) ↔
      g.Hosts spec ∧ ¬tableLimit < p.joins.nodes.length := by
  constructor
  · rintro ⟨rows, hrows⟩
    obtain ⟨cells, hanswer, -⟩ := bind_eq_ok.mp hrows
    obtain ⟨s, hs, -⟩ := bind_eq_ok.mp hanswer
    obtain ⟨hfound, hlimit⟩ := found_of_prepare hp hroot hs
    exact ⟨hfound.hosts hp hroot, hlimit⟩
  · rintro ⟨hosts, hlimit⟩
    obtain ⟨choices, -, -, hrows⟩ := exists_choices ⟨hp, hroot, hosts⟩ kind hlimit
    exact ⟨_, hrows⟩

end DottedQuery.RecordGraph
