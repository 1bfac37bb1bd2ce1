/-
# DottedQuery.Proofs.Plan.Growth -- what joining a chain of relationships does to a tree

A join crosses one relationship after the other. `Crosses` is one crossing and `Joins` a chain of
them, as relations between the tree before and the tree after: the child is there and nothing
changes, or it is made and a table is asked for. The list `asked` records for which entities tables
were asked and which tables were given, so the relations hold whatever gives the tables.

The step lemmas say what one crossing keeps and adds, the run lemmas follow by induction over the
chain: a sound tree stays sound, its nodes stay where they are, the join arrives at the node whose
route is the names of the chain, and the routes that are new are the prefixes of these names.
-/
import DottedQuery.Proofs.Plan.Tree

namespace DottedQuery.JoinTree

variable {t t' : JoinTree} {id next last : Nat} {n : JoinNode} {edge : Relationship}
  {hops : List Relationship} {asked : List (String × String)} {route : List String}

/-! ## The root alone, and one more node -/

theorem sound_ofRoot (entity table : String) : (ofRoot entity table).Sound where
  root_arrival := rfl
  root_route := rfl
  numbered := rfl
  aliased := by
    intro n hn
    rw [List.mem_singleton.mp hn]
    rfl
  hangs := by
    intro n hn
    exact absurd hn List.not_mem_nil
  distinct := List.nodup_singleton _
  children_keys := .nil
  mem_children := by
    intro parent name id
    simp [ofRoot]

theorem routes_attach (hn : t.node? id = some n) (edge : Relationship) (table : String) :
    (t.attach id edge table).routes = t.routes ++ [n.route ++ [edge.name]] := by
  rw [routes, nodes_attach, List.map_append, List.map_singleton, newNode, routeTo_of_node? hn]
  rfl

/-- The added node hangs below the node that the relationship was crossed from. -/
theorem hangs_attach (hn : t.node? id = some n) (edge : Relationship)
    (table : String) :
    Hangs (t.attach id edge table) (t.newNode id edge table) ⟨id, edge⟩ n where
  arrival_eq := rfl
  parent_lt := (List.getElem?_eq_some_iff.mp hn).1
  parent_eq := (grows_attach t id edge table).node? hn
  route_eq := by rw [newNode, routeTo_of_node? hn]
  entity_eq := rfl

/-- Making a child that is missing keeps the tree sound. -/
theorem Sound.attach (hs : t.Sound) (hn : t.node? id = some n)
    (hmissing : t.child? id edge.name = none) (table : String) :
    (t.attach id edge table).Sound where
  root_arrival := hs.root_arrival
  root_route := hs.root_route
  numbered := by
    rw [nodes_attach, List.map_append, hs.numbered, List.length_append, List.length_singleton,
      List.range_succ]
    rfl
  aliased := by
    intro m hm
    rw [nodes_attach] at hm
    rcases List.mem_append.mp hm with hold | hnew
    · exact hs.aliased m hold
    · rw [List.mem_singleton.mp hnew]
      rfl
  hangs := by
    intro m hm
    rcases List.mem_append.mp hm with hold | hnew
    · obtain ⟨arrival, parent, h⟩ := hs.hangs m hold
      exact ⟨arrival, parent, h.grows (grows_attach t id edge table)⟩
    · rw [List.mem_singleton.mp hnew]
      exact ⟨⟨id, edge⟩, n, hangs_attach hn edge table⟩
  distinct := by
    rw [routes_attach hn]
    refine List.nodup_append.mpr ⟨hs.distinct, List.nodup_singleton _, ?_⟩
    intro r hr r' hr'
    rw [List.mem_singleton.mp hr']
    rintro rfl
    -- a node of the new route would be the child that is missing
    obtain ⟨m, hm, hroute⟩ := List.mem_map.mp hr
    have hchild : t.child? id edge.name = some m.id :=
      (hs.child?_eq_some_iff hn).mpr ⟨m, hs.node?_of_mem hm, hroute⟩
    rw [hmissing] at hchild
    cases hchild
  children_keys := nodup_putEntry hs.children_keys
  mem_children := by
    intro parent name number
    have hfresh : (id, edge.name) ∉ t.children.map (·.1) := valueAt?_eq_none_iff.mp hmissing
    -- the key is free, so the entry of the new node goes to the end and replaces nothing
    show _ ∈ putEntry (id, edge.name) t.nodes.length t.children ↔
      ∃ m ∈ t.joined ++ [t.newNode id edge table], _
    rw [putEntry_of_not_mem hfresh, List.mem_append, List.mem_singleton, hs.mem_children]
    simp only [List.mem_append, List.mem_singleton, or_and_right, exists_or, exists_eq_left]
    refine or_congr_right ?_
    rw [isChild_newNode, Prod.mk.injEq, eq_comm, eq_comm (a := number)]
    rfl

/-! ## Crossing -/

/-- One relationship is crossed from the node `id`. -/
inductive Crosses (t : JoinTree) (id : Nat) (edge : Relationship) :
    List (String × String) → JoinTree → Nat → Prop
  | reuse {child : Nat} (h : t.child? id edge.name = some child) : Crosses t id edge [] t child
  | make (table : String) (h : t.child? id edge.name = none) :
      Crosses t id edge [(edge.target, table)] (t.attach id edge table) t.nodes.length

theorem Crosses.grows (h : Crosses t id edge asked t' next) : Grows t t' := by
  cases h with
  | reuse _ => exact Grows.refl t
  | make table _ => exact grows_attach t id edge table

theorem Crosses.sound (h : Crosses t id edge asked t' next) (hs : t.Sound)
    (hn : t.node? id = some n) : t'.Sound := by
  cases h with
  | reuse _ => exact hs
  | make table hmissing => exact hs.attach hn hmissing table

/-- A crossing arrives one name further. -/
theorem Crosses.arrives (h : Crosses t id edge asked t' next) (hs : t.Sound)
    (hn : t.node? id = some n) :
    ∃ m, t'.node? next = some m ∧ m.route = n.route ++ [edge.name] := by
  cases h with
  | reuse hchild => exact (hs.child?_eq_some_iff hn).mp hchild
  | make table _ =>
    exact ⟨_, node?_attach t id edge table, (hangs_attach hn edge table).route_eq⟩

/-- A crossing adds the route it arrives at and no other. -/
theorem Crosses.mem_routes (h : Crosses t id edge asked t' next) (hs : t.Sound)
    (hn : t.node? id = some n) :
    route ∈ t'.routes ↔ route ∈ t.routes ∨ route = n.route ++ [edge.name] := by
  cases h with
  | reuse hchild =>
    obtain ⟨m, hm, hroute⟩ := (hs.child?_eq_some_iff hn).mp hchild
    constructor
    · exact Or.inl
    · rintro (hr | rfl)
      · exact hr
      · exact List.mem_map.mpr ⟨m, mem_nodes_of_node? hm, hroute⟩
  | make table _ => rw [routes_attach hn, List.mem_append, List.mem_singleton]

/-! ## Chains of crossings -/

/-- A chain of relationships is crossed from the node `id`. -/
inductive Joins :
    JoinTree → Nat → List Relationship → List (String × String) → JoinTree → Nat → Prop
  | done (t : JoinTree) (id : Nat) : Joins t id [] [] t id
  | cross {t t' t'' : JoinTree} {id next last : Nat} {edge : Relationship}
      {rest : List Relationship} {asked more : List (String × String)}
      (h : Crosses t id edge asked t' next) (hrest : Joins t' next rest more t'' last) :
      Joins t id (edge :: rest) (asked ++ more) t'' last

theorem Joins.grows (h : Joins t id hops asked t' last) : Grows t t' := by
  induction h with
  | done t id => exact Grows.refl t
  | cross h _ ih => exact h.grows.trans ih

theorem Joins.sound (h : Joins t id hops asked t' last) (hs : t.Sound)
    (hn : t.node? id = some n) : t'.Sound := by
  induction h generalizing n with
  | done t id => exact hs
  | cross h _ ih =>
    obtain ⟨m, hm, -⟩ := h.arrives hs hn
    exact ih (h.sound hs hn) hm

/-- A join arrives at the node whose route goes on with the names of the chain. -/
theorem Joins.arrives (h : Joins t id hops asked t' last) (hs : t.Sound)
    (hn : t.node? id = some n) :
    ∃ m, t'.node? last = some m ∧ m.route = n.route ++ hops.map (·.name) := by
  induction h generalizing n with
  | done t id => exact ⟨n, hn, (List.append_nil _).symm⟩
  | cross h _ ih =>
    obtain ⟨m, hm, hroute⟩ := h.arrives hs hn
    obtain ⟨m', hm', hroute'⟩ := ih (h.sound hs hn) hm
    refine ⟨m', hm', ?_⟩
    rw [hroute', hroute, List.append_assoc]
    rfl

/-- A join adds the routes on its way and no others. -/
theorem Joins.mem_routes (h : Joins t id hops asked t' last) (hs : t.Sound)
    (hn : t.node? id = some n) :
    route ∈ t'.routes ↔
      route ∈ t.routes ∨ ∃ p, p <+: hops.map (·.name) ∧ route = n.route ++ p := by
  induction h generalizing n with
  | done t id =>
    have hhere : n.route ∈ t.routes := List.mem_map_of_mem (mem_nodes_of_node? hn)
    constructor
    · exact Or.inl
    · rintro (hr | ⟨p, hp, rfl⟩)
      · exact hr
      · rw [List.prefix_nil.mp hp, List.append_nil]
        exact hhere
  | @cross t t' t'' id next last edge rest asked more h _ ih =>
    have hhere : n.route ∈ t.routes := List.mem_map_of_mem (mem_nodes_of_node? hn)
    obtain ⟨m, hm, hroute⟩ := h.arrives hs hn
    -- a prefix of the whole chain is empty, or it goes on from the first name
    rw [ih (h.sound hs hn) hm, h.mem_routes hs hn, hroute, List.map_cons]
    constructor
    · rintro ((hr | rfl) | ⟨p, hp, rfl⟩)
      · exact Or.inl hr
      · exact Or.inr ⟨[edge.name], List.prefix_append [edge.name] _, rfl⟩
      · refine Or.inr ⟨edge.name :: p, List.cons_prefix_cons.mpr ⟨rfl, hp⟩, ?_⟩
        rw [List.append_assoc]
        rfl
    · rintro (hr | ⟨p, hp, rfl⟩)
      · exact Or.inl (Or.inl hr)
      · rcases List.prefix_cons_iff.mp hp with rfl | ⟨p, rfl, -⟩
        · rw [List.append_nil]
          exact Or.inl (Or.inl hhere)
        · refine Or.inr ⟨p, (List.cons_prefix_cons.mp hp).2, ?_⟩
          rw [List.append_assoc]
          rfl

/-! ## Joining with known tables -/

/-- Joining with tables that are known is a chain of crossings in which these tables are given. -/
theorem joins_joinFrom (tableOf : String → String) (t : JoinTree) (id : Nat)
    (hops : List Relationship) :
    ∃ asked, (∀ q ∈ asked, q.2 = tableOf q.1) ∧
      Joins t id hops asked (Id.run (t.joinFrom (fun entity => pure (tableOf entity)) id hops)).1
        (Id.run (t.joinFrom (fun entity => pure (tableOf entity)) id hops)).2 := by
  induction hops generalizing t id with
  | nil => exact ⟨[], fun q hq => absurd hq List.not_mem_nil, .done t id⟩
  | cons edge rest ih =>
    cases hchild : t.child? id edge.name with
    | some child =>
      obtain ⟨asked, hasked, hrest⟩ := ih t child
      refine ⟨asked, hasked, ?_⟩
      have hstep : t.cross (m := Id) (fun entity => pure (tableOf entity)) id edge =
          pure (t, child) := by rw [cross, hchild]
      rw [joinFrom, hstep]
      exact .cross (.reuse hchild) hrest
    | none =>
      obtain ⟨asked, hasked, hrest⟩ := ih (t.attach id edge (tableOf edge.target)) t.nodes.length
      refine ⟨(edge.target, tableOf edge.target) :: asked, ?_, ?_⟩
      · intro q hq
        rcases List.mem_cons.mp hq with rfl | hq
        · rfl
        · exact hasked q hq
      · have hstep : t.cross (m := Id) (fun entity => pure (tableOf entity)) id edge =
            pure (t.attach id edge (tableOf edge.target), t.nodes.length) := by
          rw [cross, hchild]
          rfl
        rw [joinFrom, hstep]
        exact .cross (.make _ hchild) hrest

end DottedQuery.JoinTree
