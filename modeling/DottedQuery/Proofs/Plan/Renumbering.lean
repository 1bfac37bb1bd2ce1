/-
# DottedQuery.Proofs.Plan.Renumbering -- plans of a query in another order

The order of the paths of a query decides the order in which nodes are made, and so all numbers and all
aliases. Nothing else depends on it: a grounded tree is determined by its routes up to numbers
(`renumbers_of_routes`), since a route determines the trail that a node stands for, and the parent is
the node at the route with one name less.

The routes of a plan are the prefixes of the paths of its query, which are the same for the query with
its fields and its filters in another order. So the plan of the reordered query has the same nodes under
other numbers, and its selections and predicates are those of the first plan, in the new order and with
the new numbers (`renumbers_of_reordered`). Whether there is a plan does not depend on the order at all.
-/
import DottedQuery.Proofs.Plan.Placement
import DottedQuery.Proofs.Reordering

namespace DottedQuery

/-! ## Other numbers -/

/-- The node under other numbers, with the alias of its own. -/
def JoinNode.renumber (f : Nat → Nat) (n : JoinNode) : JoinNode :=
  { n with
    id := f n.id
    aliasName := aliasOf (f n.id)
    arrival := n.arrival.map fun a => { a with parent := f a.parent } }

def ColumnRef.renumber (f : Nat → Nat) (column : ColumnRef) : ColumnRef :=
  { column with node := f column.node, aliasName := aliasOf (f column.node) }

def Selection.renumber (f : Nat → Nat) (s : Selection) : Selection :=
  { s with column := s.column.renumber f }

def Predicate.renumber (f : Nat → Nat) (q : Predicate) : Predicate :=
  { q with column := q.column.renumber f }

theorem JoinNode.isMany_renumber (f : Nat → Nat) (n : JoinNode) :
    (n.renumber f).isMany = n.isMany := by
  rw [isMany, isMany, renumber, Option.any_map]

namespace JoinTree

variable {c : Catalog} {start : Entity} {t t' : JoinTree} {n n' : JoinNode} {f : Nat → Nat}

/-- A tree has the nodes of another one under other numbers. The root is the root, and no two nodes
get the same number. -/
structure Renumbers (f : Nat → Nat) (t t' : JoinTree) : Prop where
  root_eq : t'.root = t.root.renumber f
  nodes : (t.nodes.map (JoinNode.renumber f)).Perm t'.nodes
  injective : ∀ n ∈ t.nodes, ∀ m ∈ t.nodes, f n.id = f m.id → n = m

/-- The number that the route of a node has in another tree. -/
def numberIn (t t' : JoinTree) (id : Nat) : Nat := ((t'.find? (t.routeTo id)).map (·.id)).getD 0

theorem numberIn_eq (hs' : t'.Sound) {id : Nat} (hn : t.node? id = some n) (hn' : n' ∈ t'.nodes)
    (hroute : n'.route = n.route) : numberIn t t' id = n'.id := by
  have hfind : t'.find? n.route = some n' := hs'.find?_eq_some_iff.mpr ⟨hn', hroute⟩
  rw [numberIn, routeTo_of_node? hn, hfind]
  rfl

/-! ## Trees with the same routes -/

/-- Nodes with the same route stand for the same trail. -/
theorem Stands.unique {hops hops' : List Relationship} {e e' : Entity}
    (h : Stands c start t n hops e) (h' : Stands c start t' n' hops' e')
    (hroute : n'.route = n.route) : hops = hops' ∧ e = e' := by
  refine h.trail.unique h'.trail ?_
  rw [← h.route_eq, ← h'.route_eq, hroute]

/-- The same relationship leads to nodes with the same route, and it leads there from the nodes with
the route of one name less. -/
theorem arrival_renumber (hg : Grounded c start t) (hg' : Grounded c start t') (hn : n ∈ t.nodes)
    (hn' : n' ∈ t'.nodes) (hroute : n'.route = n.route) :
    (n.arrival.map fun a => { a with parent := numberIn t t' a.parent }) = n'.arrival := by
  by_cases hnil : n.route = []
  · have hroot : n = t.root := hg.sound.eq_of_route hn List.mem_cons_self
      (hnil.trans hg.sound.root_route.symm)
    have hroot' : n' = t'.root := hg'.sound.eq_of_route hn' List.mem_cons_self
      ((hroute.trans hnil).trans hg'.sound.root_route.symm)
    rw [hroot, hroot', hg.sound.root_arrival, hg'.sound.root_arrival]
    rfl
  · obtain ⟨parent, edge, e, target, h⟩ := hg.crossing (hg.sound.mem_joined hn hnil)
    obtain ⟨parent', edge', e', target', h'⟩ :=
      hg'.crossing (hg'.sound.mem_joined hn' (hroute ▸ hnil))
    obtain ⟨hops, hparent, -⟩ := h.stands
    obtain ⟨hops', hparent', -⟩ := h'.stands
    have hwhole : parent'.route ++ [edge'.name] = parent.route ++ [edge.name] := by
      rw [← h.hangs.route_eq, ← h'.hangs.route_eq, hroute]
    obtain ⟨hparents, hname⟩ := List.append_inj' hwhole rfl
    -- the parents stand for one entity, which has one relationship of a name
    obtain ⟨-, rfl⟩ := hparent.unique hparent' hparents
    have hedge : edge = edge' := by
      have hboth := h'.edge_eq
      rw [List.singleton_inj.mp hname, h.edge_eq] at hboth
      exact Option.some.inj hboth
    have hid : numberIn t t' parent.id = parent'.id :=
      numberIn_eq hg'.sound h.hangs.parent_eq h'.parent_mem hparents
    rw [h.hangs.arrival_eq, h'.hangs.arrival_eq, Option.map_some, hid, hedge]

/-- Nodes with the same route are the same up to numbers. -/
theorem renumber_eq (hg : Grounded c start t) (hg' : Grounded c start t') (hn : n ∈ t.nodes)
    (hn' : n' ∈ t'.nodes) (hroute : n'.route = n.route) : n.renumber (numberIn t t') = n' := by
  obtain ⟨hops, e, h⟩ := hg.stands n hn
  obtain ⟨hops', e', h'⟩ := hg'.stands n' hn'
  obtain ⟨-, rfl⟩ := h.unique h' hroute
  rw [JoinNode.renumber, numberIn_eq hg'.sound (hg.sound.node?_of_mem hn) hn' hroute,
    arrival_renumber hg hg' hn hn' hroute, h.entity_eq, h.table_eq, ← h'.entity_eq, ← h'.table_eq,
    ← hg'.sound.aliased n' hn', ← hroute]

/-- Every node has one with its route in the other tree, if the trees have the same routes. -/
theorem exists_node_of_routes (hroutes : ∀ route, route ∈ t.routes → route ∈ t'.routes)
    (hn : n ∈ t.nodes) : ∃ n' ∈ t'.nodes, n'.route = n.route :=
  List.mem_map.mp (hroutes n.route (List.mem_map_of_mem hn))

theorem root_renumber (hg : Grounded c start t) (hg' : Grounded c start t') :
    t'.root = t.root.renumber (numberIn t t') := by
  refine (renumber_eq hg hg' List.mem_cons_self List.mem_cons_self ?_).symm
  rw [hg.sound.root_route, hg'.sound.root_route]

/-- Grounded trees with the same routes are the same up to numbers. -/
theorem renumbers_of_routes (hg : Grounded c start t) (hg' : Grounded c start t')
    (hroutes : ∀ route, route ∈ t.routes ↔ route ∈ t'.routes) :
    Renumbers (numberIn t t') t t' where
  root_eq := root_renumber hg hg'
  nodes := by
    have hnodup : t'.nodes.Nodup := List.Nodup.of_map _ hg'.sound.distinct
    have hnodup' : (t.nodes.map (JoinNode.renumber (numberIn t t'))).Nodup := by
      refine List.Nodup.of_map (·.route) ?_
      rw [List.map_map]
      exact hg.sound.distinct
    refine (List.perm_ext_iff_of_nodup hnodup' hnodup).mpr fun n' => ?_
    rw [List.mem_map]
    constructor
    · rintro ⟨n, hn, rfl⟩
      obtain ⟨n', hn', hroute⟩ := exists_node_of_routes (fun route => (hroutes route).mp) hn
      rwa [renumber_eq hg hg' hn hn' hroute]
    · intro hn'
      obtain ⟨n, hn, hroute⟩ := exists_node_of_routes (fun route => (hroutes route).mpr) hn'
      exact ⟨n, hn, renumber_eq hg hg' hn hn' hroute.symm⟩
  injective := by
    intro n hn m hm hsame
    obtain ⟨n', hn', hroute⟩ := exists_node_of_routes (fun route => (hroutes route).mp) hn
    obtain ⟨m', hm', hroute'⟩ := exists_node_of_routes (fun route => (hroutes route).mp) hm
    rw [numberIn_eq hg'.sound (hg.sound.node?_of_mem hn) hn' hroute,
      numberIn_eq hg'.sound (hg.sound.node?_of_mem hm) hm' hroute'] at hsame
    have hnode := hg'.sound.node?_of_mem hn'
    rw [hsame, hg'.sound.node?_of_mem hm'] at hnode
    refine hg.sound.eq_of_route hn hm ?_
    rw [← hroute, ← hroute', Option.some.inj hnode]

theorem Renumbers.joinCount_eq (h : Renumbers f t t') : t'.joinCount = t.joinCount := by
  have hlength := h.nodes.length_eq
  rw [List.length_map] at hlength
  exact (Nat.succ.inj hlength).symm

/-- The root has no arrival, so it does not matter that it is not among the joined nodes. -/
theorem fansOut_eq (hs : t.Sound) : t.fansOut = t.nodes.any JoinNode.isMany := by
  have hroot : t.root.isMany = false := by
    rw [JoinNode.isMany, hs.root_arrival]
    rfl
  rw [fansOut, nodes, List.any_cons, hroot, Bool.false_or]

theorem Renumbers.fansOut_eq (h : Renumbers f t t') (hs : t.Sound) (hs' : t'.Sound) :
    t'.fansOut = t.fansOut := by
  rw [JoinTree.fansOut_eq hs, JoinTree.fansOut_eq hs', ← h.nodes.any_eq, List.any_map]
  exact congrArg t.nodes.any (funext (JoinNode.isMany_renumber f))

end JoinTree

/-! ## Queries in another order -/

/-- The query with its fields and its filters in other orders. -/
def QuerySpec.reordered (spec : QuerySpec) (order filterOrder : List Nat) : QuerySpec :=
  { spec with fields := reorder order spec.fields, filters := reorder filterOrder spec.filters }

/-- The orders have every field and every filter of a query once. -/
structure QuerySpec.Orders (spec : QuerySpec) (order filterOrder : List Nat) : Prop where
  fields : order.Perm (List.range spec.fields.length)
  filters : filterOrder.Perm (List.range spec.filters.length)

variable {spec : QuerySpec} {order filterOrder : List Nat} {c : Catalog} {p p' : Plan}
  {start start' : Entity}

namespace QuerySpec.Orders

theorem mem_fields (h : spec.Orders order filterOrder) {field : FieldSpec} :
    field ∈ (spec.reordered order filterOrder).fields ↔ field ∈ spec.fields :=
  (reorder_perm h.fields).mem_iff

theorem mem_filters (h : spec.Orders order filterOrder) {filter : FilterSpec} :
    filter ∈ (spec.reordered order filterOrder).filters ↔ filter ∈ spec.filters :=
  (reorder_perm h.filters).mem_iff

theorem mem_paths (h : spec.Orders order filterOrder) {path : FieldPath} :
    path ∈ (spec.reordered order filterOrder).paths ↔ path ∈ spec.paths := by
  simp only [QuerySpec.paths, List.mem_append, List.mem_map, h.mem_fields, h.mem_filters]

theorem mem_routes (h : spec.Orders order filterOrder) {route : List String} :
    route ∈ (spec.reordered order filterOrder).routes ↔ route ∈ spec.routes := by
  simp only [QuerySpec.mem_routes, h.mem_paths]

end QuerySpec.Orders

namespace Catalog

open JoinTree (Renumbers numberIn)

theorem exists_plan_reordered (h : spec.Orders order filterOrder) :
    (∃ p', c.plan (spec.reordered order filterOrder) = .ok p') ↔ ∃ p, c.plan spec = .ok p := by
  have hnonempty : reorder order spec.fields ≠ [] ↔ spec.fields ≠ [] := by
    rw [← List.length_pos_iff, ← List.length_pos_iff, (reorder_perm h.fields).length_eq]
  rw [exists_plan_iff, exists_plan_iff]
  simp only [h.mem_fields, h.mem_filters]
  exact and_congr_left' hnonempty

/-- What a path resolves to is in the columns of the same name in nodes that correspond. -/
theorem Reads.renumber {t t' : JoinTree} {r : Resolution} {column column' : ColumnRef}
    {n n' : JoinNode} (h : Reads c start t r column n) (hs' : t'.Sound)
    (h' : Reads c start t' r column' n') : column.renumber (numberIn t t') = column' := by
  have hroute : n'.route = n.route := by rw [h.stands.route_eq, h'.stands.route_eq]
  have hnode : numberIn t t' column.node = column'.node := by
    rw [JoinTree.numberIn_eq hs' h.node_eq (JoinTree.mem_nodes_of_node? h'.node_eq) hroute]
    exact hs'.id_of_node? h'.node_eq
  rw [ColumnRef.renumber, hnode, ← h'.alias_eq_aliasOf hs', h.column_eq, ← h'.column_eq]

/-- The plan of a reordered query is the plan of the query under other numbers, in the other order. -/
theorem renumbers_of_reordered (h : Planned c spec p start)
    (h' : Planned c (spec.reordered order filterOrder) p' start')
    (horders : spec.Orders order filterOrder) :
    Renumbers (numberIn p.joins p'.joins) p.joins p'.joins ∧
      p'.selections =
        reorder order (p.selections.map (Selection.renumber (numberIn p.joins p'.joins))) ∧
      p'.predicates =
        reorder filterOrder (p.predicates.map (Predicate.renumber (numberIn p.joins p'.joins))) := by
  obtain rfl : start = start' := Option.some.inj (h.start_eq.symm.trans h'.start_eq)
  have hs' : p'.joins.Sound := h'.grounded.sound
  refine ⟨JoinTree.renumbers_of_routes h.grounded h'.grounded ?_, ?_, ?_⟩
  · intro route
    rw [h.mem_routes, h'.mem_routes, horders.mem_routes]
  · refine eq_reorder_map ?_ h.selections h'.selections
    rintro field s s' ⟨r, n, hr, hreads, hpath, htype, hlabel⟩
      ⟨r', n', hr', hreads', hpath', htype', hlabel'⟩
    obtain rfl : r = r' := Except.ok.inj (hr.symm.trans hr')
    rw [Selection.renumber, hreads.renumber hs' hreads', hpath, htype, hlabel, ← hpath', ← htype',
      ← hlabel']
  · refine eq_reorder_map ?_ h.predicates h'.predicates
    rintro filter q q' ⟨r, n, hr, hreads, hpath, hcondition⟩
      ⟨r', n', hr', hreads', hpath', hcondition'⟩
    obtain rfl : r = r' := Except.ok.inj (hr.symm.trans hr')
    have hsame : q.condition = q'.condition := Except.ok.inj (hcondition.symm.trans hcondition')
    rw [Predicate.renumber, hreads.renumber hs' hreads', hpath, hsame, ← hpath']

end Catalog

end DottedQuery
