/-
# DottedQuery.Proofs.Plan.Grounded -- join trees of one catalog

A tree by itself knows only names. When all its chains are trails of one catalog from one entity,
each node stands for such a trail (`Stands`): the names of the trail are the node's route, its last
entity and that entity's table are the node's, and the relationships from the root down to the node
are the trail itself (`Descends`). `Grounded` says so of every node.

Crossing a relationship of the entity that a node stands for keeps this. The case that needs the
catalog is the child that is there already: it stands for some trail with the right names, and names
determine a trail, so it is the trail that was just crossed.
-/
import DottedQuery.Proofs.Catalog.Trail
import DottedQuery.Proofs.Plan.Growth

namespace DottedQuery.JoinTree

variable {c : Catalog} {start e target : Entity} {t t' : JoinTree} {id next last : Nat}
  {n m : JoinNode} {edge : Relationship} {hops hops' : List Relationship}
  {asked : List (String × String)}

/-! ## From the root down to a node -/

/-- The relationships on the way from the root of a tree down to a node. -/
inductive Descends (t : JoinTree) : List Relationship → JoinNode → Prop
  | root : Descends t [] t.root
  | child {edges : List Relationship} {parent n : JoinNode} {arrival : Arrival}
      (hparent : Descends t edges parent) (hn : n ∈ t.joined) (harrival : n.arrival = some arrival)
      (hid : t.node? arrival.parent = some parent) : Descends t (edges ++ [arrival.edge]) n

theorem Descends.grows (h : Descends t hops n) (hg : Grows t t') : Descends t' hops n := by
  induction h with
  | root => exact hg.root ▸ .root
  | child _ hn harrival hid ih =>
    exact .child ih (hg.mem_joined hn) harrival (hg.node? hid)

/-- There is one way down to a node. -/
theorem Descends.unique (hs : t.Sound) (h : Descends t hops n) (h' : Descends t hops' n) :
    hops = hops' := by
  induction h generalizing hops' with
  | root =>
    cases h' with
    | root => rfl
    | child _ hn _ _ => exact absurd hs.root_route (hs.route_ne_nil hn)
  | @child edges parent n arrival _ hn harrival hid ih =>
    cases h' with
    | root => exact absurd hs.root_route (hs.route_ne_nil hn)
    | @child edges' parent' _ arrival' hparent' _ harrival' hid' =>
      rw [harrival] at harrival'
      cases harrival'
      rw [hid] at hid'
      cases hid'
      rw [ih hparent']

/-! ## Nodes and trails -/

/-- A node stands for a trail from `start` over `hops` to `e`. -/
structure Stands (c : Catalog) (start : Entity) (t : JoinTree) (n : JoinNode)
    (hops : List Relationship) (e : Entity) : Prop where
  trail : c.Trail start hops e
  route_eq : n.route = hops.map (·.name)
  entity_eq : n.entity = e.name
  table_eq : n.table = e.tableName
  descends : t.Descends hops n

/-- Every node of the tree stands for a trail from `start`. -/
structure Grounded (c : Catalog) (start : Entity) (t : JoinTree) : Prop where
  sound : t.Sound
  stands : ∀ n ∈ t.nodes, ∃ hops e, Stands c start t n hops e

theorem Stands.grows (h : Stands c start t n hops e) (hg : Grows t t') :
    Stands c start t' n hops e :=
  { h with descends := h.descends.grows hg }

/-- The tree of the root alone is grounded. -/
theorem grounded_ofRoot (c : Catalog) (start : Entity) :
    Grounded c start (ofRoot start.name start.tableName) where
  sound := sound_ofRoot _ _
  stands := by
    intro n hn
    rw [List.mem_singleton.mp hn]
    exact ⟨[], start, .here start, rfl, rfl, rfl, .root⟩

/-- The root of a grounded tree stands for no crossing at all. -/
theorem Grounded.stands_root (hg : Grounded c start t) : Stands c start t t.root [] start := by
  obtain ⟨hops, e, h⟩ := hg.stands t.root List.mem_cons_self
  have hnil : hops = [] := by
    have hnames := h.route_eq
    rw [hg.sound.root_route] at hnames
    exact List.map_eq_nil_iff.mp hnames.symm
  subst hnil
  cases h.trail with
  | here _ => exact h

/-- Two nodes with the names of a trail are one node, and it stands for this trail. -/
theorem Grounded.stands_of_route (hg : Grounded c start t) (hn : n ∈ t.nodes)
    (htrail : c.Trail start hops e) (hroute : n.route = hops.map (·.name)) :
    Stands c start t n hops e := by
  obtain ⟨hops', e', h⟩ := hg.stands n hn
  obtain ⟨rfl, rfl⟩ := h.trail.unique htrail (h.route_eq.symm.trans hroute)
  exact h

/-- How a joined node stands to its parent: the relationship between them is one of the entity that
the parent stands for, and the node stands for its target. -/
structure Crossing (c : Catalog) (start : Entity) (t : JoinTree) (n parent : JoinNode)
    (edge : Relationship) (e target : Entity) : Prop where
  hangs : Hangs t n ⟨parent.id, edge⟩ parent
  parent_mem : parent ∈ t.nodes
  stands : ∃ hops, Stands c start t parent hops e ∧ Stands c start t n (hops ++ [edge]) target
  edge_eq : e.relationship? edge.name = some edge
  target_eq : c.entity? edge.target = some target

theorem Grounded.crossing (hg : Grounded c start t) (hn : n ∈ t.joined) :
    ∃ parent edge e target, Crossing c start t n parent edge e target := by
  obtain ⟨⟨id, edge⟩, parent, hangs⟩ := hg.sound.hangs n hn
  have hid : parent.id = id := hg.sound.id_of_node? hangs.parent_eq
  have hparent : parent ∈ t.nodes := mem_nodes_of_node? hangs.parent_eq
  subst hid
  obtain ⟨hops, e, hst⟩ := hg.stands parent hparent
  obtain ⟨hops', target, hst'⟩ := hg.stands n (List.mem_cons_of_mem _ hn)
  have hdown : t.Descends (hops ++ [edge]) n :=
    .child hst.descends hn hangs.arrival_eq hangs.parent_eq
  -- there is one way down to the node, so its trail is its parent's with one crossing more
  obtain rfl : hops' = hops ++ [edge] := hst'.descends.unique hg.sound hdown
  obtain ⟨mid, hmid, hlast⟩ := hst'.trail.split
  obtain ⟨-, rfl⟩ := hmid.unique hst.trail rfl
  cases hlast with
  | cross hedge htarget hrest =>
    cases hrest with
    | here _ => exact ⟨parent, edge, mid, target, hangs, hparent, ⟨hops, hst, hst'⟩, hedge, htarget⟩

/-! ## Growing -/

/-- Making the child for a relationship of the entity that the parent stands for. -/
theorem Grounded.attach (hg : Grounded c start t) (hn : t.node? id = some n)
    (hmissing : t.child? id edge.name = none) (hst : Stands c start t n hops e)
    (hedge : e.relationship? edge.name = some edge) (htarget : c.entity? edge.target = some target) :
    Grounded c start (t.attach id edge (c.tableOf edge.target)) where
  sound := hg.sound.attach hn hmissing _
  stands := by
    have hgrows : Grows t (t.attach id edge (c.tableOf edge.target)) := grows_attach ..
    intro m hm
    rw [nodes_attach, List.mem_append, List.mem_singleton] at hm
    rcases hm with hold | rfl
    · obtain ⟨hops', e', h⟩ := hg.stands m hold
      exact ⟨hops', e', h.grows hgrows⟩
    · refine ⟨hops ++ [edge], target, hst.trail.concat hedge htarget, ?_, ?_, ?_, ?_⟩
      · rw [newNode, routeTo_of_node? hn, hst.route_eq, List.map_append, List.map_singleton]
      · exact (Catalog.name_of_entity? htarget).symm
      · exact Catalog.tableOf_eq htarget
      · have harrival : (t.newNode id edge (c.tableOf edge.target)).arrival = some ⟨id, edge⟩ := rfl
        refine .child (hst.descends.grows hgrows) ?_ harrival (hgrows.node? hn)
        exact List.mem_append_right _ (List.mem_singleton.mpr rfl)

/-- Crossing a relationship of the entity that a node stands for keeps a tree grounded. -/
theorem Crosses.grounded (h : Crosses t id edge asked t' next) (hg : Grounded c start t)
    (hasked : ∀ q ∈ asked, q.2 = c.tableOf q.1) (hn : t.node? id = some n)
    (hst : Stands c start t n hops e) (hedge : e.relationship? edge.name = some edge)
    (htarget : c.entity? edge.target = some target) : Grounded c start t' := by
  cases h with
  | reuse _ => exact hg
  | make table hmissing =>
    have htable : table = c.tableOf edge.target := hasked _ (List.mem_singleton.mpr rfl)
    rw [htable]
    exact hg.attach hn hmissing hst hedge htarget

/-- Joining a trail that goes on from a node keeps a tree grounded, and the join arrives at the node
that stands for the whole trail. -/
theorem Joins.grounded (h : Joins t id hops' asked t' last) (hg : Grounded c start t)
    (hasked : ∀ q ∈ asked, q.2 = c.tableOf q.1) (hn : t.node? id = some n)
    (hst : Stands c start t n hops e) (htrail : c.Trail e hops' target) :
    Grounded c start t' ∧
      ∃ m, t'.node? last = some m ∧ Stands c start t' m (hops ++ hops') target := by
  induction h generalizing n hops e with
  | done t id =>
    cases htrail with
    | here _ => exact ⟨hg, n, hn, by rwa [List.append_nil]⟩
  | @cross t t' t'' id next last edge rest asked more h _ ih =>
    cases htrail with
    | @cross _ between _ _ _ hedge htarget hrest =>
      obtain ⟨hasked, hmore⟩ := List.forall_mem_append.mp hasked
      have hg' : Grounded c start t' := h.grounded hg hasked hn hst hedge htarget
      obtain ⟨m, hm, hroute⟩ := h.arrives hg.sound hn
      -- whether the child was made or found, its route tells what it stands for
      have hst' : Stands c start t' m (hops ++ [edge]) between := by
        refine hg'.stands_of_route (mem_nodes_of_node? hm) (hst.trail.concat hedge htarget) ?_
        rw [hroute, hst.route_eq, List.map_append, List.map_singleton]
      have hwhole := ih hg' hmore hm hst' hrest
      rwa [List.append_assoc] at hwhole

end DottedQuery.JoinTree
