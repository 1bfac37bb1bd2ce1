/-
# DottedQuery.Proofs.Plan.Tree -- join trees are prefix trees

A tree grows by crossing one relationship at a time: a child that is there is reused, a child that
is missing is made at the end. `Sound` is the invariant of all trees that are made in this way: nodes
are numbered in their order and have the aliases of their numbers, a parent comes before its children, a
node's route is that of its parent with one name more, no two nodes have the same route, and the index of
children has all nodes but the root and nothing else.

From the invariant a sound tree is determined by its routes. What the index gives as a child of a node is
the node whose route has the name at its end (`Sound.child?_eq_some_iff`), and following names from the
root finds the node of that route (`Sound.find?_eq_some_iff`). Because numbers follow the order of the
nodes, a list of joined nodes can be cut anywhere, and the parents of what comes after are before the cut
or in it.
-/
import DottedQuery.Plan.JoinTree
import DottedQuery.Proofs.Dictionaries
import Mathlib.Data.List.Infix
import Mathlib.Data.List.Nodup

namespace DottedQuery

/-- Different numbers have different aliases: the digits of a number give it back. -/
theorem aliasOf_injective {i j : Nat} (h : aliasOf i = aliasOf j) : i = j := by
  have hchars := congrArg String.toList h
  rw [aliasOf, aliasOf, String.toList_append, String.toList_append] at hchars
  have hdigits : Nat.toDigits 10 i = Nat.toDigits 10 j := by
    rw [← Nat.toList_repr, ← Nat.toList_repr]
    exact List.append_cancel_left hchars
  rw [← Nat.ofDigitChars_ten_toDigits (n := i), hdigits, Nat.ofDigitChars_ten_toDigits]

/-- The node is reached from this parent under this name. -/
def JoinNode.IsChild (n : JoinNode) (parent : Nat) (name : String) : Prop :=
  ∃ edge, n.arrival = some ⟨parent, edge⟩ ∧ edge.name = name

namespace JoinTree

variable {t t' t'' : JoinTree} {id next last : Nat} {n m : JoinNode} {name : String}
  {names : List String}

/-! ## Routes and growth -/

/-- The routes of all nodes, in the order of the nodes. -/
def routes (t : JoinTree) : List (List String) := t.nodes.map (·.route)

/-- A later state of a tree: the nodes of the earlier one come first, unchanged. -/
def Grows (t t' : JoinTree) : Prop := t.nodes <+: t'.nodes

theorem Grows.refl (t : JoinTree) : Grows t t := List.prefix_refl _

theorem Grows.trans (h : Grows t t') (h' : Grows t' t'') : Grows t t'' := List.IsPrefix.trans h h'

/-- A node keeps its number while the tree grows. -/
theorem Grows.node? (h : Grows t t') (hn : t.node? id = some n) : t'.node? id = some n := by
  obtain ⟨added, hadded⟩ := h
  have hlt : id < t.nodes.length := (List.getElem?_eq_some_iff.mp hn).1
  show t'.nodes[id]? = some n
  rw [← hadded, List.getElem?_append_left hlt]
  exact hn

/-- The root stays. -/
theorem Grows.root (h : Grows t t') : t'.root = t.root := by
  obtain ⟨added, hadded⟩ := h
  exact (List.cons.inj hadded).1.symm

/-- A joined node stays one. -/
theorem Grows.mem_joined (h : Grows t t') (hn : n ∈ t.joined) : n ∈ t'.joined := by
  obtain ⟨added, hadded⟩ := h
  rw [← (List.cons.inj hadded).2]
  exact List.mem_append_left _ hn

theorem mem_nodes_of_node? (hn : t.node? id = some n) : n ∈ t.nodes := List.mem_of_getElem? hn

theorem node?_zero (t : JoinTree) : t.node? 0 = some t.root := rfl

theorem mem_of_cut {before after : List JoinNode} (hcut : t.joined = before ++ n :: after) :
    n ∈ t.joined := by
  rw [hcut]
  exact List.mem_append_right _ List.mem_cons_self

/-- The cut one node further. -/
theorem next_cut {before after : List JoinNode} (hcut : t.joined = before ++ n :: after) :
    t.joined = (before ++ [n]) ++ after := by
  rw [hcut, List.append_assoc]
  rfl

/-- Where the joined nodes are cut at a node, its number is that of the nodes before it. -/
theorem node?_of_cut {before after : List JoinNode} (hcut : t.joined = before ++ n :: after) :
    t.node? (t.root :: before).length = some n := by
  rw [node?, nodes, hcut, ← List.cons_append, List.getElem?_append_right (Nat.le_refl _),
    Nat.sub_self]
  rfl

theorem nodes_attach (t : JoinTree) (id : Nat) (edge : Relationship) (table : String) :
    (t.attach id edge table).nodes = t.nodes ++ [t.newNode id edge table] := rfl

theorem grows_attach (t : JoinTree) (id : Nat) (edge : Relationship) (table : String) :
    Grows t (t.attach id edge table) := List.prefix_append ..

/-- The added node has the first number that is free. -/
theorem node?_attach (t : JoinTree) (id : Nat) (edge : Relationship) (table : String) :
    (t.attach id edge table).node? t.nodes.length = some (t.newNode id edge table) := by
  show (t.attach id edge table).nodes[t.nodes.length]? = _
  rw [nodes_attach]
  exact List.getElem?_concat_length

theorem node_of_node? (hn : t.node? id = some n) : t.node id = n := by
  rw [node, hn, Option.getD_some]

theorem routeTo_of_node? (hn : t.node? id = some n) : t.routeTo id = n.route := by
  rw [routeTo, node_of_node? hn]

/-- The added node is a child of the node that the relationship was crossed from. -/
theorem isChild_newNode {edge : Relationship} {table : String} {parent : Nat} :
    (t.newNode id edge table).IsChild parent name ↔ (id, edge.name) = (parent, name) := by
  constructor
  · rintro ⟨_, harrival, rfl⟩
    cases harrival
    rfl
  · rintro h
    cases h
    exact ⟨edge, rfl, rfl⟩

/-! ## The invariant -/

/-- How a node hangs in its tree: below an earlier node, one name further than that one. -/
structure Hangs (t : JoinTree) (n : JoinNode) (arrival : Arrival) (parent : JoinNode) : Prop where
  arrival_eq : n.arrival = some arrival
  parent_lt : arrival.parent < n.id
  parent_eq : t.node? arrival.parent = some parent
  route_eq : n.route = parent.route ++ [arrival.edge.name]
  entity_eq : n.entity = arrival.edge.target

/-- The nodes of a tree are in order, and its index is that of these nodes. -/
structure Sound (t : JoinTree) : Prop where
  root_arrival : t.root.arrival = none
  root_route : t.root.route = []
  numbered : t.nodes.map (·.id) = List.range t.nodes.length
  aliased : ∀ n ∈ t.nodes, n.aliasName = aliasOf n.id
  hangs : ∀ n ∈ t.joined, ∃ arrival parent, Hangs t n arrival parent
  distinct : t.routes.Nodup
  children_keys : (t.children.map (·.1)).Nodup
  mem_children : ∀ parent name id, ((parent, name), id) ∈ t.children ↔
    ∃ n ∈ t.joined, n.IsChild parent name ∧ n.id = id

theorem Hangs.grows {arrival : Arrival} {parent : JoinNode} (h : Hangs t n arrival parent)
    (hg : Grows t t') : Hangs t' n arrival parent :=
  { h with parent_eq := hg.node? h.parent_eq }

namespace Sound

theorem id_of_node? (hs : t.Sound) (hn : t.node? id = some n) : n.id = id := by
  have hlt : id < t.nodes.length := (List.getElem?_eq_some_iff.mp hn).1
  have hid : (t.nodes.map (·.id))[id]? = some n.id := by
    rw [List.getElem?_map]
    exact congrArg (Option.map (·.id)) hn
  rw [hs.numbered, List.getElem?_range hlt] at hid
  exact (Option.some.inj hid).symm

theorem node?_of_mem (hs : t.Sound) (hn : n ∈ t.nodes) : t.node? n.id = some n := by
  obtain ⟨i, hi⟩ := List.mem_iff_getElem?.mp hn
  have hid : n.id = i := hs.id_of_node? hi
  rw [hid]
  exact hi

/-- A route leads to one node. -/
theorem eq_of_route (hs : t.Sound) (hn : n ∈ t.nodes) (hm : m ∈ t.nodes)
    (h : n.route = m.route) : n = m :=
  List.inj_on_of_nodup_map hs.distinct hn hm h

/-- A node that does not have the empty route hangs below another one. -/
theorem mem_joined (hs : t.Sound) (hn : n ∈ t.nodes) (hne : n.route ≠ []) : n ∈ t.joined := by
  rcases List.mem_cons.mp hn with rfl | h
  · exact absurd hs.root_route hne
  · exact h

/-- Only the root has the empty route. -/
theorem route_ne_nil (hs : t.Sound) (hn : n ∈ t.joined) : n.route ≠ [] := by
  obtain ⟨arrival, parent, h⟩ := hs.hangs n hn
  rw [h.route_eq]
  simp

/-- With a route, all routes on the way to it are there: parents come before their children, so
this is an induction on the number of the node. -/
theorem exists_node_of_prefix (hs : t.Sound) :
    ∀ k n, t.node? k = some n → ∀ p, p <+: n.route → ∃ m ∈ t.nodes, m.route = p := by
  intro k
  induction k using Nat.strong_induction_on with
  | _ k ih =>
    intro n hn p hp
    have hmem : n ∈ t.nodes := mem_nodes_of_node? hn
    by_cases hwhole : n.route = p
    · exact ⟨n, hmem, hwhole⟩
    · have hne : n.route ≠ [] := by
        intro hnil
        rw [hnil, List.prefix_nil] at hp
        exact hwhole (hnil.trans hp.symm)
      obtain ⟨arrival, parent, h⟩ := hs.hangs n (hs.mem_joined hmem hne)
      rw [h.route_eq, List.prefix_concat_iff] at hp
      rcases hp with hp | hp
      · exact absurd (h.route_eq.trans hp.symm) hwhole
      -- the parent has a smaller number, and the prefix is one of its route already
      · have hlt : arrival.parent < k := by
          have := h.parent_lt
          rwa [hs.id_of_node? hn] at this
        exact ih arrival.parent hlt parent h.parent_eq p hp

/-- The number of a node is its place, so no two nodes go by the same alias. -/
theorem distinct_aliases (hs : t.Sound) : (t.nodes.map (·.aliasName)).Nodup := by
  have hnames : t.nodes.map (·.aliasName) = (t.nodes.map (·.id)).map aliasOf := by
    rw [List.map_map]
    exact List.map_congr_left hs.aliased
  rw [hnames, hs.numbered]
  exact List.nodup_range.map fun _ _ => aliasOf_injective

/-- Where the nodes are cut, those before the cut have the first numbers. -/
theorem numbered_before (hs : t.Sound) {before after : List JoinNode}
    (hcut : t.nodes = before ++ after) : before.map (·.id) = List.range before.length := by
  have htake := congrArg (List.take before.length) hs.numbered
  rw [hcut, List.map_append, List.take_left' (List.length_map _), List.take_range,
    Nat.min_eq_left (by rw [List.length_append]; omega)] at htake
  exact htake

/-- A parent stands before its children. -/
theorem parent_mem_before (hs : t.Sound) {before after : List JoinNode}
    (hcut : t.joined = before ++ n :: after) {arrival : Arrival} {parent : JoinNode}
    (h : Hangs t n arrival parent) : parent ∈ t.root :: before := by
  have hlt : arrival.parent < (t.root :: before).length := by
    rw [← hs.id_of_node? (node?_of_cut hcut)]
    exact h.parent_lt
  have hparent := h.parent_eq
  rw [node?, nodes, hcut, ← List.cons_append, List.getElem?_append_left hlt] at hparent
  exact List.mem_of_getElem? hparent

/-- A node before a cut is at the place of its number. -/
theorem getElem?_of_mem_before (hs : t.Sound) {before after : List JoinNode}
    (hcut : t.joined = before ++ n :: after) (hm : m ∈ t.root :: before) :
    (t.root :: before)[m.id]? = some m := by
  obtain ⟨i, hi⟩ := List.mem_iff_getElem?.mp hm
  have hnode : t.node? i = some m := by
    rw [node?, nodes, hcut, ← List.cons_append,
      List.getElem?_append_left (List.getElem?_eq_some_iff.mp hi).1]
    exact hi
  rw [hs.id_of_node? hnode]
  exact hi

/-- The route of a node is not among those of the nodes before it. -/
theorem route_not_mem_before (hs : t.Sound) {before after : List JoinNode}
    (hcut : t.joined = before ++ n :: after) : n.route ∉ (t.root :: before).map (·.route) := by
  have hdistinct := hs.distinct
  rw [routes, nodes, hcut, ← List.cons_append, List.map_append, List.nodup_append] at hdistinct
  intro hmem
  exact hdistinct.2.2 n.route hmem n.route List.mem_cons_self rfl

/-! ## Looking up -/

/-- A child of this name is a node whose route has the name at its end. -/
theorem isChild_iff (hs : t.Sound) (hn : t.node? id = some n) (hm : m ∈ t.joined) :
    m.IsChild id name ↔ m.route = n.route ++ [name] := by
  obtain ⟨arrival, parent, h⟩ := hs.hangs m hm
  rw [h.route_eq]
  constructor
  · rintro ⟨edge, harrival, rfl⟩
    obtain rfl : arrival = ⟨id, edge⟩ := Option.some.inj (h.arrival_eq.symm.trans harrival)
    obtain rfl : parent = n := Option.some.inj (h.parent_eq.symm.trans hn)
    rfl
  · intro heq
    obtain ⟨hroute, hname⟩ := List.append_inj' heq rfl
    have hparent : parent = n :=
      hs.eq_of_route (mem_nodes_of_node? h.parent_eq) (mem_nodes_of_node? hn) hroute
    have hid : arrival.parent = id := by
      rw [← hs.id_of_node? hn, ← hparent]
      exact (hs.id_of_node? h.parent_eq).symm
    exact ⟨arrival.edge, by rw [h.arrival_eq, ← hid], List.singleton_inj.mp hname⟩

/-- Looking for a child in the index finds the node that is reached from the parent under the name. -/
theorem child?_iff (hs : t.Sound) {parent : Nat} :
    t.child? parent name = some id ↔ ∃ n ∈ t.joined, n.IsChild parent name ∧ n.id = id := by
  rw [child?, valueAt?_eq_some_iff hs.children_keys, hs.mem_children]

/-- That is the node whose route has the name at its end. -/
theorem child?_eq_some_iff (hs : t.Sound) (hn : t.node? id = some n) :
    t.child? id name = some next ↔ ∃ m, t.node? next = some m ∧ m.route = n.route ++ [name] := by
  rw [hs.child?_iff]
  constructor
  · rintro ⟨m, hm, hchild, rfl⟩
    exact ⟨m, hs.node?_of_mem (List.mem_cons_of_mem _ hm), (hs.isChild_iff hn hm).mp hchild⟩
  · rintro ⟨m, hm, hroute⟩
    have hmem : m ∈ t.joined := by
      refine hs.mem_joined (mem_nodes_of_node? hm) ?_
      rw [hroute]
      simp
    exact ⟨m, hmem, (hs.isChild_iff hn hmem).mpr hroute, hs.id_of_node? hm⟩

/-- Following names from a node finds the node whose route goes on with them. -/
theorem findFrom?_eq_some_iff (hs : t.Sound) (hn : t.node? id = some n) :
    t.findFrom? id names = some last ↔
      ∃ m, t.node? last = some m ∧ m.route = n.route ++ names := by
  induction names generalizing id n with
  | nil =>
    rw [findFrom?, Option.some.injEq, List.append_nil]
    constructor
    · rintro rfl
      exact ⟨n, hn, rfl⟩
    · rintro ⟨m, hm, hroute⟩
      have hsame : m = n := hs.eq_of_route (mem_nodes_of_node? hm) (mem_nodes_of_node? hn) hroute
      rw [← hs.id_of_node? hn, ← hs.id_of_node? hm, hsame]
  | cons name rest ih =>
    rw [findFrom?, Option.bind_eq_some_iff]
    constructor
    · rintro ⟨child, hchild, hrest⟩
      obtain ⟨m, hm, hroute⟩ := (hs.child?_eq_some_iff hn).mp hchild
      obtain ⟨m', hm', hroute'⟩ := (ih hm).mp hrest
      refine ⟨m', hm', ?_⟩
      rw [hroute', hroute, List.append_assoc]
      rfl
    · rintro ⟨m, hm, hroute⟩
      -- the node between the two is there because the route of the last one passes it
      have hp : n.route ++ [name] <+: m.route := by
        rw [hroute]
        exact ⟨rest, by rw [List.append_assoc]; rfl⟩
      obtain ⟨k, hk, hkroute⟩ := hs.exists_node_of_prefix last m hm _ hp
      have hknode : t.node? k.id = some k := hs.node?_of_mem hk
      refine ⟨k.id, (hs.child?_eq_some_iff hn).mpr ⟨k, hknode, hkroute⟩, ?_⟩
      refine (ih hknode).mpr ⟨m, hm, ?_⟩
      rw [hroute, hkroute, List.append_assoc]
      rfl

/-- Following names from the root finds the node of that route. -/
theorem find?_eq_some_iff (hs : t.Sound) :
    t.find? names = some n ↔ n ∈ t.nodes ∧ n.route = names := by
  rw [JoinTree.find?, Option.bind_eq_some_iff]
  constructor
  · rintro ⟨k, hk, hn⟩
    obtain ⟨m, hm, hroute⟩ := (hs.findFrom?_eq_some_iff (node?_zero t)).mp hk
    rw [hn] at hm
    cases hm
    refine ⟨mem_nodes_of_node? hn, ?_⟩
    rw [hroute, hs.root_route, List.nil_append]
  · rintro ⟨hn, hroute⟩
    have hnode : t.node? n.id = some n := hs.node?_of_mem hn
    refine ⟨n.id, (hs.findFrom?_eq_some_iff (node?_zero t)).mpr ⟨n, hnode, ?_⟩, hnode⟩
    rw [hroute, hs.root_route, List.nil_append]

end Sound

end JoinTree

end DottedQuery
