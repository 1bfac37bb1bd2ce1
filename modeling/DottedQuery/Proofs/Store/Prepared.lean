/-
# DottedQuery.Proofs.Store.Prepared -- statements of plans are prepared

Preparing looks up every table and column of a statement in a database. For the statement of a plan
over a database that has what the query needs this succeeds, and every column is found where the plan
means it: in the table whose position in the statement is the number of its node.

The tables that have been looked up so far are those of the first nodes of the tree, so an alias is
found at the number that it was made of (`slot_scopeOf`). That a join's partner is among them is the
order of the tree. A statement with too many tables is refused before anything is looked up.
-/
import DottedQuery.Proofs.Sql.Scope
import DottedQuery.Proofs.Store.RecordGraph

namespace DottedQuery

open JoinTree (Crossing Grounded Stands)
open Sql (Join JoinKind JoinOf QualifiedColumn joinOf_joined)
open Store (PreparedJoin Prepared Relation Scope Slot prepare prepareCondition prepareJoin prepareJoins
  slotIn tableLimit)

variable {g : RecordGraph} {spec : QuerySpec} {p : Plan} {start e : Entity} {n : JoinNode}
  {hops : List Relationship} {column : String} {k : Nat}

/-! ## Looking up in a scope -/

/-- An alias is looked up at its place, if no earlier table goes by it. -/
theorem slot_append {scope later : Scope} {aliasName : String} (r : Relation)
    (hnew : ∀ entry ∈ scope, entry.1 ≠ aliasName) (column : String) :
    Scope.slot (scope ++ (aliasName, r) :: later) ⟨aliasName, column⟩ =
      slotIn scope.length r ⟨aliasName, column⟩ := by
  have hfind : (scope ++ (aliasName, r) :: later).findIdx? (fun entry => entry.1 = aliasName) =
      some scope.length := by
    have hnone : scope.findIdx? (fun entry => entry.1 = aliasName) = none :=
      List.findIdx?_eq_none_iff.mpr fun entry hentry => decide_eq_false (hnew entry hentry)
    rw [List.findIdx?_append, hnone, List.findIdx?_cons, if_pos (decide_eq_true rfl),
      Option.map_some, Nat.zero_add]
    rfl
  have hlookup : (scope ++ (aliasName, r) :: later).lookup aliasName = some r := by
    refine List.lookup_eq_some_iff.mpr ⟨scope, later, rfl, ?_⟩
    intro entry hentry
    exact bne_iff_ne.mpr (hnew entry hentry).symm
  rw [Scope.slot, hfind, hlookup]

/-! ## Entities of nodes -/

/-- Walking along the names of a trail leads where the trail leads. -/
theorem Catalog.Trail.walk?_eq {c : Catalog} {last : Entity} (h : c.Trail e hops last) :
    c.walk? e (hops.map (·.name)) = some last := by
  induction h with
  | here e => rfl
  | cross hedge htarget _ ih =>
    rw [List.map_cons, walk?, hedge, Option.bind_some, htarget, Option.bind_some]
    exact ih

namespace RecordGraph

/-- A node stands for the entity at its route. -/
theorem entityAt?_of_stands (hstart : g.catalog.entity? g.root = some start) {t : JoinTree}
    (h : Stands g.catalog start t n hops e) : g.entityAt? n.route = some e := by
  rw [entityAt?, hstart, Option.bind_some, h.route_eq]
  exact h.trail.walk?_eq

/-- What the database has for a node of the tree. -/
def relationOf (g : RecordGraph) (n : JoinNode) : Relation :=
  ((g.entityAt? n.route).bind g.relation?).getD { columns := [], keyed := false, rows := [] }

/-- A plan for whose query the database has all that is needed. -/
structure Backed (g : RecordGraph) (spec : QuerySpec) (p : Plan) (start : Entity) : Prop where
  planned : Catalog.Planned g.catalog spec p start
  root_eq : g.root = spec.table
  hosts : g.Hosts spec

/-- A node whose table is there. -/
structure Shown (g : RecordGraph) (n : JoinNode) (e : Entity) : Prop where
  entity_eq : g.entityAt? n.route = some e
  relation_eq : g.relation? e = some (g.relationOf n)
  table_eq : g.db.relation n.table = .ok (g.relationOf n)

/-- If the database has what the query needs, it has the tables of all nodes. -/
theorem shown_of_stands (hb : g.Backed spec p start)
    (hn : n ∈ p.joins.nodes) (hst : Stands g.catalog start p.joins n hops e) : g.Shown n e := by
  have hentity : g.entityAt? n.route = some e :=
    entityAt?_of_stands (hb.root_eq ▸ hb.planned.start_eq) hst
  have hroute : n.route ∈ spec.routes := (hb.planned.mem_routes n.route).mp (List.mem_map_of_mem hn)
  obtain ⟨r, hr⟩ := Option.isSome_iff_exists.mp (hb.hosts.tables n.route hroute e hentity)
  have hrelation : g.relationOf n = r := by
    rw [relationOf, hentity, Option.bind_some, hr]
    rfl
  refine ⟨hentity, hrelation ▸ hr, ?_⟩
  rw [hrelation, hst.table_eq]
  rw [relation?] at hr
  cases hdb : g.db.relation e.tableName with
  | error cause =>
    rw [hdb] at hr
    cases hr
  | ok r' =>
    rw [hdb] at hr
    cases hr
    rfl

theorem Shown.columnIndex?_eq (h : g.Shown n e) (column : String) :
    (g.relationOf n).columnIndex? column = g.position? e column := by
  rw [position?, h.relation_eq, Option.bind_some]

/-! ## Columns -/

/-- A slot is the column of this name in the table of a node. -/
structure SlotOf (g : RecordGraph) (n : JoinNode) (column : String) (slot : Slot) : Prop where
  table_eq : slot.table = n.id
  column_eq : (g.relationOf n).columnIndex? column = some slot.column
  manner_eq : slot.manner = (g.relationOf n).mannerAt slot.column

/-- A slot is at the place that the column has in the entity's table. -/
theorem Shown.position?_eq {slot : Slot} (h : g.Shown n e) (hof : g.SlotOf n column slot) :
    g.position? e column = some slot.column := by
  rw [← h.columnIndex?_eq]
  exact hof.column_eq

/-- The tables of nodes under their aliases. -/
def scopeOf (g : RecordGraph) (ns : List JoinNode) : Scope :=
  ns.map fun n => (n.aliasName, g.relationOf n)

theorem exists_slotIn (h : (g.relationOf n).columnIndex? column = some k) (aliasName : String) :
    ∃ slot, slotIn n.id (g.relationOf n) ⟨aliasName, column⟩ = .ok slot ∧ g.SlotOf n column slot := by
  refine ⟨⟨n.id, k, (g.relationOf n).mannerAt k⟩, ?_, rfl, h, rfl⟩
  rw [slotIn, h]

/-- A column of a node is looked for in the table of the node, once the node is in scope. -/
theorem slot_scopeOf {t : JoinTree} (hs : t.Sound) {ns : List JoinNode} (hns : ns <+: t.nodes)
    (hn : n ∈ ns) (column : String) : (g.scopeOf ns).slot ⟨n.aliasName, column⟩ =
      slotIn n.id (g.relationOf n) ⟨n.aliasName, column⟩ := by
  obtain ⟨before, after, rfl⟩ := List.append_of_mem hn
  have hlength : n.id = before.length := by
    obtain ⟨later, hnodes⟩ := hns
    have hat := congrArg (fun ids : List Nat => ids[before.length]?) (hs.numbered_before hnodes.symm)
    simp only [List.map_append, List.map_cons] at hat
    rw [List.getElem?_append_right (by rw [List.length_map]), List.length_map, Nat.sub_self,
      List.getElem?_range (by rw [List.length_append, List.length_cons]; omega)] at hat
    exact Option.some.inj hat
  have hnew : ∀ entry ∈ g.scopeOf before, entry.1 ≠ n.aliasName := by
    intro entry hentry hsame
    obtain ⟨m, hm, rfl⟩ := List.mem_map.mp hentry
    have hnodup : ((before ++ n :: after).map (·.aliasName)).Nodup :=
      hs.distinct_aliases.sublist (hns.sublist.map _)
    rw [List.map_append, List.nodup_append] at hnodup
    exact hnodup.2.2 m.aliasName (List.mem_map_of_mem hm) n.aliasName List.mem_cons_self hsame
  have hscope : g.scopeOf (before ++ n :: after) =
      g.scopeOf before ++ (n.aliasName, g.relationOf n) :: g.scopeOf after := by
    rw [scopeOf, List.map_append, List.map_cons]
    rfl
  have hplace : n.id = (g.scopeOf before).length := by rw [scopeOf, List.length_map, hlength]
  rw [hscope, slot_append _ hnew, ← hplace]

/-- The column of a node is found at the number of the node, once the node is in scope. -/
theorem exists_slot {t : JoinTree} (hs : t.Sound) {ns : List JoinNode} (hns : ns <+: t.nodes)
    (hn : n ∈ ns) (h : (g.relationOf n).columnIndex? column = some k) :
    ∃ slot, (g.scopeOf ns).slot ⟨n.aliasName, column⟩ = .ok slot ∧ g.SlotOf n column slot := by
  rw [slot_scopeOf hs hns hn]
  exact exists_slotIn h n.aliasName

/-! ## Joins -/

/-- A join that was looked up: the records of the node's table, the column of the target, and the
column of the parent that it has to be equal to. -/
structure Ready (g : RecordGraph) (start : Entity) (t : JoinTree) (n : JoinNode) (j : PreparedJoin)
    (parent : JoinNode) (edge : Relationship) (e target : Entity) : Prop where
  crossing : Crossing g.catalog start t n parent edge e target
  rows_eq : j.rows = (g.relationOf n).rows
  target_slot : g.SlotOf n edge.targetColumn j.target
  partner_slot : g.SlotOf parent edge.sourceColumn j.partner

/-- The columns of both sides of a join are in the tables of its nodes. -/
theorem positions_of_crossing (hb : g.Backed spec p start)
    (hn : n ∈ p.joins.joined) {parent : JoinNode} {edge : Relationship} {target : Entity}
    (hcrossing : Crossing g.catalog start p.joins n parent edge e target) :
    g.Shown n target ∧ g.Shown parent e ∧
      (∃ k, (g.relationOf parent).columnIndex? edge.sourceColumn = some k) ∧
      ∃ k, (g.relationOf n).columnIndex? edge.targetColumn = some k := by
  obtain ⟨hops, hparent, hnode⟩ := hcrossing.stands
  have hmem : n ∈ p.joins.nodes := List.mem_cons_of_mem _ hn
  have hshown : g.Shown n target := shown_of_stands hb hmem hnode
  have hshown' : g.Shown parent e := shown_of_stands hb hcrossing.parent_mem hparent
  have hroute : n.route = parent.route ++ [edge.name] := hcrossing.hangs.route_eq
  have hplanned : parent.route ++ [edge.name] ∈ spec.routes :=
    hroute ▸ (hb.planned.mem_routes n.route).mp (List.mem_map_of_mem hmem)
  obtain ⟨hsource, htarget⟩ := hb.hosts.joins parent.route edge.name e edge target hplanned
    hshown'.entity_eq hcrossing.edge_eq (hroute ▸ hshown.entity_eq)
  refine ⟨hshown, hshown', ?_, ?_⟩
  · rw [hshown'.columnIndex?_eq]
    exact Option.isSome_iff_exists.mp hsource
  · rw [hshown.columnIndex?_eq]
    exact Option.isSome_iff_exists.mp htarget

/-- One more join: the tables before it are in scope, and its own comes after them. -/
theorem exists_prepareJoin (hb : g.Backed spec p start)
    {before after : List JoinNode} (hcut : p.joins.joined = before ++ n :: after) {j : Join}
    (hj : JoinOf g.catalog start p.joins n j) :
    ∃ prepared, prepareJoin g.db (g.scopeOf (p.joins.root :: before)) j =
        .ok (g.scopeOf (p.joins.root :: before ++ [n]), prepared) ∧
      ∃ parent edge e target, g.Ready start p.joins n prepared parent edge e target := by
  obtain ⟨parent, edge, e, target, hcrossing, rfl⟩ := hj
  have hs : p.joins.Sound := hb.planned.grounded.sound
  have hn : n ∈ p.joins.joined := JoinTree.mem_of_cut hcut
  obtain ⟨hshown, -, ⟨k, hk⟩, k', hk'⟩ := positions_of_crossing hb hn hcrossing
  have hnodes : p.joins.nodes = (p.joins.root :: before) ++ n :: after := by
    rw [JoinTree.nodes, hcut]
    rfl
  have hparent : parent ∈ p.joins.root :: before := hs.parent_mem_before hcut hcrossing.hangs
  obtain ⟨target_slot, htarget, htargetOf⟩ := exists_slotIn hk' n.aliasName
  obtain ⟨partner_slot, hpartner, hpartnerOf⟩ := exists_slot hs ⟨_, hnodes.symm⟩ hparent hk
  have hplace : n.id = (g.scopeOf (p.joins.root :: before)).length := by
    rw [scopeOf, List.length_map]
    exact hs.id_of_node? (JoinTree.node?_of_cut hcut)
  refine ⟨⟨(g.relationOf n).rows, target_slot, partner_slot⟩, ?_, parent, edge, e, target, hcrossing,
    rfl, htargetOf, hpartnerOf⟩
  have hscope : g.scopeOf (p.joins.root :: before ++ [n]) =
      g.scopeOf (p.joins.root :: before) ++ [(n.aliasName, g.relationOf n)] := by
    rw [scopeOf, List.map_append]
    rfl
  rw [hplace] at htarget
  rw [prepareJoin, bind_eq_ok]
  refine ⟨g.relationOf n, hshown.table_eq, bind_eq_ok.mpr ⟨target_slot, htarget, ?_⟩⟩
  refine bind_eq_ok.mpr ⟨partner_slot, hpartner, ?_⟩
  rw [hscope]
  rfl

/-- All joins, one after the other. -/
theorem exists_prepareJoins (hb : g.Backed spec p start)
    {before after : List JoinNode} (hcut : p.joins.joined = before ++ after) {joins : List Join}
    (hjoins : List.Forall₂ (JoinOf g.catalog start p.joins) after joins) :
    ∃ prepared, prepareJoins g.db (g.scopeOf (p.joins.root :: before)) joins =
        .ok (g.scopeOf p.joins.nodes, prepared) ∧
      List.Forall₂ (fun n j => ∃ parent edge e target, g.Ready start p.joins n j parent edge e target)
        after prepared := by
  induction hjoins generalizing before with
  | nil =>
    refine ⟨[], ?_, .nil⟩
    rw [List.append_nil] at hcut
    rw [prepareJoins, JoinTree.nodes, hcut]
  | @cons n j rest joins hj _ ih =>
    -- the node that was just joined is in scope for the others
    obtain ⟨prepared, hfirst, hready⟩ := exists_prepareJoin hb hcut hj
    obtain ⟨others, hothers, hall⟩ := ih (JoinTree.next_cut hcut)
    refine ⟨prepared :: others, ?_, .cons hready hall⟩
    rw [prepareJoins, bind_eq_ok]
    exact ⟨_, hfirst, bind_eq_ok.mpr ⟨_, hothers, rfl⟩⟩

/-! ## Whole statements -/

/-- A slot is the column that a path ends with, in the table at its relationships. -/
def Finds (g : RecordGraph) (t : JoinTree) (path : FieldPath) (slot : Slot) : Prop :=
  ∃ n ∈ t.nodes, n.route = path.relationships ∧ g.SlotOf n path.field slot

/-- A statement of a plan that was looked up. -/
structure Looked (g : RecordGraph) (start : Entity) (p : Plan) (kind : JoinKind) (s : Prepared) :
    Prop where
  root_eq : s.root = (g.relationOf p.joins.root).rows
  kind_eq : s.joinKind = kind
  joins : List.Forall₂
    (fun n j => ∃ parent edge e target, g.Ready start p.joins n j parent edge e target)
    p.joins.joined s.joins
  columns : List.Forall₂ (fun sel slot => g.Finds p.joins sel.path slot) p.selections s.columns
  conditions : List.Forall₂
    (fun q entry => g.Finds p.joins q.path entry.1 ∧ entry.2 = q.condition) p.predicates s.conditions

/-- The column of a path is looked up. -/
theorem exists_slot_of_reads (hb : g.Backed spec p start) {path : FieldPath}
    (hpath : path ∈ spec.paths) {r : Resolution} (hr : g.catalog.resolve spec.table path = .ok r)
    {ref : ColumnRef} (hreads : Catalog.Reads g.catalog start p.joins r ref n) :
    ∃ slot, (g.scopeOf p.joins.nodes).slot (Sql.qualify ref) = .ok slot ∧
      g.Finds p.joins path slot := by
  have hs : p.joins.Sound := hb.planned.grounded.sound
  have hn : n ∈ p.joins.nodes := JoinTree.mem_nodes_of_node? hreads.node_eq
  have hroute : n.route = path.relationships := hreads.route_eq hr
  have hshown : g.Shown n r.entity := shown_of_stands hb hn hreads.stands
  obtain ⟨k, hk⟩ := Option.isSome_iff_exists.mp
    (hb.hosts.fields path hpath r.entity (hroute ▸ hshown.entity_eq))
  rw [← hshown.columnIndex?_eq] at hk
  obtain ⟨slot, hslot, hof⟩ := exists_slot hs List.prefix_rfl hn hk
  rw [Sql.qualify_of_reads hr hreads]
  exact ⟨slot, hslot, n, hn, hroute, hof⟩

theorem exists_columns (hb : g.Backed spec p start) :
    ∃ slots, (p.selections.map fun s => Sql.qualify s.column).mapM (g.scopeOf p.joins.nodes).slot =
        .ok slots ∧
      List.Forall₂ (fun sel slot => g.Finds p.joins sel.path slot) p.selections slots := by
  have heach : ∀ sel ∈ p.selections, ∃ slot,
      (g.scopeOf p.joins.nodes).slot (Sql.qualify sel.column) = .ok slot ∧
        g.Finds p.joins sel.path slot := by
    intro sel hsel
    obtain ⟨field, hfield, r, n, hr, hreads, hpath, -⟩ := exists_partner hb.planned.selections hsel
    rw [hpath]
    exact exists_slot_of_reads hb (List.mem_append_left _ (List.mem_map_of_mem hfield)) hr hreads
  obtain ⟨slots, hslots⟩ := exists_forall₂ heach
  refine ⟨slots, mapM_eq_ok.mpr (List.forall₂_map_left_iff.mpr ?_), ?_⟩
  · exact hslots.imp fun _ _ h => h.1
  · exact hslots.imp fun _ _ h => h.2

theorem exists_conditions (hb : g.Backed spec p start) :
    ∃ entries, (p.predicates.map fun q => (Sql.qualify q.column, q.condition)).mapM
        (prepareCondition (g.scopeOf p.joins.nodes)) = .ok entries ∧
      List.Forall₂ (fun q entry => g.Finds p.joins q.path entry.1 ∧ entry.2 = q.condition)
        p.predicates entries := by
  have heach : ∀ q ∈ p.predicates, ∃ entry,
      prepareCondition (g.scopeOf p.joins.nodes) (Sql.qualify q.column, q.condition) = .ok entry ∧
        g.Finds p.joins q.path entry.1 ∧ entry.2 = q.condition := by
    intro q hq
    obtain ⟨filter, hfilter, r, n, hr, hreads, hpath, -⟩ := exists_partner hb.planned.predicates hq
    obtain ⟨slot, hslot, hfinds⟩ := exists_slot_of_reads hb
      (List.mem_append_right _ (List.mem_map_of_mem hfilter)) hr hreads
    rw [hpath]
    exact ⟨(slot, q.condition), bind_eq_ok.mpr ⟨slot, hslot, rfl⟩, hfinds, rfl⟩
  obtain ⟨entries, hentries⟩ := exists_forall₂ heach
  refine ⟨entries, mapM_eq_ok.mpr (List.forall₂_map_left_iff.mpr ?_), ?_⟩
  · exact hentries.imp fun _ _ h => h.1
  · exact hentries.imp fun _ _ h => h.2

/-- How many tables the statement of a plan has. -/
theorem length_select_joins (hg : Grounded g.catalog start p.joins) (kind : JoinKind) :
    (p.select kind).joins.length + 1 = p.joins.nodes.length :=
  congrArg (· + 1) (joinOf_joined hg).length_eq.symm

/-- The statement of a plan is looked up, unless it has too many tables. -/
theorem exists_prepare (hb : g.Backed spec p start) (kind : JoinKind)
    (hlimit : ¬tableLimit < p.joins.nodes.length) :
    ∃ s, prepare g.db (p.select kind) = .ok s ∧ g.Looked start p kind s := by
  have hg : Grounded g.catalog start p.joins := hb.planned.grounded
  have hroot : g.Shown p.joins.root start := shown_of_stands hb List.mem_cons_self hg.stands_root
  have hcut : p.joins.joined = [] ++ p.joins.joined := rfl
  obtain ⟨joins, hjoins, hready⟩ := exists_prepareJoins hb hcut (joinOf_joined hg)
  obtain ⟨columns, hcolumns, hcolumnsOf⟩ := exists_columns hb
  obtain ⟨conditions, hconditions, hconditionsOf⟩ := exists_conditions hb
  refine ⟨⟨(g.scopeOf p.joins.nodes).map (·.2), (g.relationOf p.joins.root).rows, kind, joins,
    conditions, columns⟩, ?_, rfl, rfl, hready, hcolumnsOf, hconditionsOf⟩
  rw [← length_select_joins hg kind] at hlimit
  rw [prepare, if_neg hlimit, bind_eq_ok]
  refine ⟨_, hroot.table_eq, bind_eq_ok.mpr ⟨_, hjoins, ?_⟩⟩
  exact bind_eq_ok.mpr ⟨_, hcolumns, bind_eq_ok.mpr ⟨_, hconditions, rfl⟩⟩

end RecordGraph

end DottedQuery
