/-
# DottedQuery.Proofs.Plan.Upkeep -- trees under any sequence of joins

Planning joins chains of relationships that come from one catalog. A tree does not depend on that: chains
may come in any order, and relationships of one name may lead to different entities, in which case the
first one that is crossed decides. Whoever joins a chain also says how tables are found for new nodes, and
may remember what was asked.

`Kept` is what every sequence of joins keeps: numbers, aliases, parents and routes of the nodes, the index
of children that is written beside them, and which routes are there, namely the beginnings of the chains
that were joined. `Performs` is what one more join does. That a join asks for the table of each new node
once, in the order in which they are made, is told by the state in which asking leaves: it is the one in
which asking for these tables, and for nothing else, would leave (`exists_joins_run`).
-/
import DottedQuery.Proofs.Plan.Growth
import Mathlib.Data.Finset.Card
import Mathlib.Data.List.Basic

namespace DottedQuery.JoinTree

variable {σ : Type} {t t' : JoinTree} {id last : Nat} {n : JoinNode} {name : String}
  {names : List String} {hops : List Relationship} {asked : List (String × String)}
  {tableOf : String → StateM σ String} {root : Entity} {lists : List (List String)}

/-! ## The index of children -/

namespace Sound

/-- The numbers in the index are numbers of nodes. -/
theorem lt_of_mem_children (hs : t.Sound) {entry : (Nat × String) × Nat} (h : entry ∈ t.children) :
    entry.2 < t.nodes.length := by
  obtain ⟨⟨parent, name⟩, id⟩ := entry
  obtain ⟨n, hn, -, rfl⟩ := (hs.mem_children parent name id).mp h
  have hnode := hs.node?_of_mem (List.mem_cons_of_mem t.root hn)
  exact (List.getElem?_eq_some_iff.mp hnode).1

/-- No two children of a node have the same name: the index has one number for both. -/
theorem eq_of_isChild (hs : t.Sound) {m : JoinNode} {parent : Nat} (hn : n ∈ t.joined)
    (hm : m ∈ t.joined) (hchild : n.IsChild parent name) (hchild' : m.IsChild parent name) : n = m := by
  have hfound := hs.child?_iff.mpr ⟨n, hn, hchild, rfl⟩
  rw [hs.child?_iff.mpr ⟨m, hm, hchild', rfl⟩] at hfound
  have hnode := hs.node?_of_mem (List.mem_cons_of_mem t.root hn)
  rw [← Option.some.inj hfound, hs.node?_of_mem (List.mem_cons_of_mem t.root hm)] at hnode
  exact (Option.some.inj hnode).symm

/-- What is in the index of a tree stays there while the tree grows. -/
theorem mem_children_of_grows (hs : t.Sound) (hs' : t'.Sound) (hg : Grows t t')
    {entry : (Nat × String) × Nat} (h : entry ∈ t.children) : entry ∈ t'.children := by
  obtain ⟨⟨parent, name⟩, id⟩ := entry
  obtain ⟨n, hn, hchild, hid⟩ := (hs.mem_children parent name id).mp h
  exact (hs'.mem_children parent name id).mpr ⟨n, hg.mem_joined hn, hchild, hid⟩

end Sound

/-! ## Asking for tables -/

/-- What follows an action goes on from what the action gives and the state that it leaves. -/
theorem run_bind_eq {α β : Type} {x : StateM σ α} {a : α} {s s' : σ} (h : x.run s = (a, s'))
    (f : α → StateM σ β) : (x >>= f).run s = (f a).run s' := by
  rw [StateT.run_bind, h]
  rfl

/-- A join is a chain of crossings, and asks for the tables that these ask for, one after the other. -/
theorem exists_joins_run (tableOf : String → StateM σ String) (t : JoinTree) (id : Nat)
    (hops : List Relationship) (s : σ) :
    ∃ t' last s' asked, (t.joinFrom tableOf id hops).run s = ((t', last), s') ∧
      Joins t id hops asked t' last ∧
      ((asked.map Prod.fst).mapM tableOf).run s = (asked.map Prod.snd, s') := by
  induction hops generalizing t id s with
  | nil => exact ⟨t, id, s, [], rfl, .done t id, rfl⟩
  | cons edge rest ih =>
    cases hchild : t.child? id edge.name with
    | some child =>
      obtain ⟨t', last, s', asked, hrun, hjoins, hasked⟩ := ih t child s
      refine ⟨t', last, s', asked, ?_, .cross (.reuse hchild) hjoins, hasked⟩
      simp [joinFrom, cross, hchild, hrun]
    | none =>
      rcases htable : (tableOf edge.target).run s with ⟨table, s₁⟩
      obtain ⟨t', last, s', asked, hrun, hjoins, hasked⟩ :=
        ih (t.attach id edge table) t.nodes.length s₁
      refine ⟨t', last, s', (edge.target, table) :: asked, ?_, .cross (.make table hchild) hjoins, ?_⟩
      · rw [joinFrom, cross, hchild, bind_assoc, run_bind_eq htable, pure_bind]
        exact hrun
      · rw [List.map_cons, List.mapM_cons, run_bind_eq htable, run_bind_eq hasked]
        rfl

/-- The tables asked for are those of the nodes that a join adds. -/
theorem Joins.exists_added (h : Joins t id hops asked t' last) :
    ∃ added, t'.joined = t.joined ++ added ∧ added.map (fun n => (n.entity, n.table)) = asked := by
  induction h with
  | done t id => exact ⟨[], (List.append_nil _).symm, rfl⟩
  | cross h _ ih =>
    obtain ⟨added, hjoined, hadded⟩ := ih
    cases h with
    | reuse _ => exact ⟨added, hjoined, hadded⟩
    | make table _ =>
      refine ⟨_ :: added, hjoined.trans (List.append_assoc _ [_] _), ?_⟩
      rw [List.map_cons, hadded]
      rfl

/-- Where the names of a chain lead to a node, joining it changes nothing and asks for nothing. -/
theorem joinFrom_of_findFrom? {m : Type → Type} [Monad m] [LawfulMonad m] (tableOf : String → m String)
    (h : t.findFrom? id (hops.map (·.name)) = some last) :
    t.joinFrom tableOf id hops = pure (t, last) := by
  induction hops generalizing id with
  | nil =>
    cases h
    rfl
  | cons edge rest ih =>
    obtain ⟨child, hchild, hrest⟩ := Option.bind_eq_some_iff.mp h
    simp [joinFrom, cross, hchild, ih hrest]

/-! ## Sequences of joins -/

/-- A join to be carried out: a chain of relationships, and what gives the tables of new nodes. -/
structure Call (σ : Type) where
  hops : List Relationship
  tableOf : String → StateM σ String

/-- The names along the chain. -/
def Call.route (call : Call σ) : List String := call.hops.map (·.name)

/-- Carries out joins one after the other. -/
def joinAll (t : JoinTree) (calls : List (Call σ)) : StateM σ JoinTree :=
  calls.foldlM (fun t call => Prod.fst <$> t.join call.tableOf call.hops) t

/-- The chain is the beginning of one of these chains, or empty. -/
def Covered (lists : List (List String)) (names : List String) : Prop :=
  names = [] ∨ ∃ list ∈ lists, names <+: list

/-- What chains begin with. -/
def beginnings (lists : List (List String)) : Finset (List String) :=
  (lists.flatMap List.inits).toFinset.erase []

theorem mem_beginnings : names ∈ beginnings lists ↔ names ≠ [] ∧ Covered lists names := by
  rw [beginnings, Finset.mem_erase, List.mem_toFinset, List.mem_flatMap, Covered]
  simp only [List.mem_inits]
  refine and_congr_right fun hne => ?_
  rw [or_iff_right hne]

/-- A sound tree of this root in which the routes are the beginnings of these chains. -/
structure Spans (root : Entity) (lists : List (List String)) (t : JoinTree) : Prop where
  sound : t.Sound
  root_eq : t.root = ⟨0, none, root.name, root.tableName, "t0", []⟩
  mem_routes : ∀ names, names ∈ t.routes ↔ Covered lists names

theorem spans_ofRoot (root : Entity) : Spans root [] (ofRoot root.name root.tableName) where
  sound := sound_ofRoot _ _
  root_eq := rfl
  mem_routes := by
    intro names
    simp [routes, nodes, ofRoot, Covered]

namespace Spans

/-- One more join adds the beginnings of its chain. -/
theorem join (h : Spans root lists t) (hjoins : Joins t 0 hops asked t' last) :
    Spans root (lists ++ [hops.map (·.name)]) t' where
  sound := hjoins.sound h.sound (node?_zero t)
  root_eq := hjoins.grows.root.trans h.root_eq
  mem_routes := by
    intro names
    rw [hjoins.mem_routes h.sound (node?_zero t), h.mem_routes, h.root_eq]
    simp [Covered, or_and_right, exists_or, or_assoc]

/-- Joins one after the other add the beginnings of all their chains. -/
theorem exists_joinAll_run (h : Spans root lists t) (calls : List (Call σ)) (s : σ) :
    ∃ t' s', (t.joinAll calls).run s = (t', s') ∧ Spans root (lists ++ calls.map Call.route) t' := by
  induction calls generalizing t lists s with
  | nil =>
    refine ⟨t, s, rfl, ?_⟩
    rw [List.map_nil, List.append_nil]
    exact h
  | cons call calls ih =>
    obtain ⟨t₁, last, s₁, asked, hrun, hjoins, -⟩ := exists_joins_run call.tableOf t 0 call.hops s
    obtain ⟨t', s', hrest, hspans⟩ := ih (h.join hjoins) s₁
    refine ⟨t', s', ?_, ?_⟩
    · have hstep : (Prod.fst <$> t.join call.tableOf call.hops).run s = (t₁, s₁) := by
        rw [StateT.run_map, JoinTree.join, hrun]
        rfl
      rw [joinAll, List.foldlM_cons, run_bind_eq hstep]
      exact hrest
    · rw [List.append_assoc] at hspans
      exact hspans

/-- Each beginning of a chain is the route of one node, and the empty one that of the root. -/
theorem joinCount_eq (h : Spans root lists t) : t.joinCount = (beginnings lists).card := by
  have hroutes : t.routes = [] :: t.joined.map (·.route) := by
    rw [routes, nodes, List.map_cons, h.sound.root_route]
  obtain ⟨hroot, hnodup⟩ := List.nodup_cons.mp (hroutes ▸ h.sound.distinct)
  have hset : beginnings lists = (t.joined.map (·.route)).toFinset := by
    ext names
    rw [mem_beginnings, ← h.mem_routes, hroutes, List.mem_cons, List.mem_toFinset]
    constructor
    · rintro ⟨hne, hmem⟩
      exact hmem.resolve_left hne
    · intro hmem
      refine ⟨?_, Or.inr hmem⟩
      rintro rfl
      exact hroot hmem
  rw [hset, List.toFinset_card_of_nodup hnodup, List.length_map, joinCount]

/-- Names lead from the root to a node exactly if they are the beginning of a chain. -/
theorem exists_find?_iff (h : Spans root lists t) :
    (∃ n, t.find? names = some n) ↔ Covered lists names := by
  rw [← h.mem_routes, routes, List.mem_map]
  simp only [h.sound.find?_eq_some_iff]

/-- The beginning of a chain leads to a number. -/
theorem exists_findFrom?_of_covered (h : Spans root lists t) (hnames : Covered lists names) :
    ∃ id, t.findFrom? 0 names = some id := by
  obtain ⟨n, hn⟩ := h.exists_find?_iff.mpr hnames
  obtain ⟨id, hid, -⟩ := Option.bind_eq_some_iff.mp hn
  exact ⟨id, hid⟩

end Spans

/-! ## What joins keep and do -/

/-- What a tree is like after chains of these names were joined to a root. -/
structure Kept (root : Entity) (lists : List (List String)) (t : JoinTree) : Prop where
  root_eq : t.root = ⟨0, none, root.name, root.tableName, "t0", []⟩
  numbered : ∀ i n, t.node? i = some n → n.id = i ∧ n.aliasName = "t" ++ toString i
  /-- A parent has a smaller number; its route, with the name of the relationship, is that of the node, and
  the relationship leads to the entity of the node. -/
  hangs : ∀ n ∈ t.joined, ∃ arrival parent, Hangs t n arrival parent
  /-- The index has the number of every node but the root, under its parent and name, and nothing else. -/
  mem_children : ∀ parent name id, ((parent, name), id) ∈ t.children ↔
    ∃ n ∈ t.joined, n.IsChild parent name ∧ n.id = id
  children_keys : (t.children.map Prod.fst).Nodup
  children_range : ∀ entry ∈ t.children, entry.2 < t.nodes.length
  /-- No two children of a node have the same name. -/
  siblings : ∀ n ∈ t.joined, ∀ m ∈ t.joined, ∀ parent name,
    n.IsChild parent name → m.IsChild parent name → n = m
  find?_iff : ∀ names, (∃ n, t.find? names = some n) ↔ Covered lists names
  route_of_find? : ∀ names n, t.find? names = some n → n.route = names
  joinCount_eq : t.joinCount = (beginnings lists).card

theorem Spans.kept (h : Spans root lists t) : Kept root lists t where
  root_eq := h.root_eq
  numbered := by
    intro i n hn
    have hid := h.sound.id_of_node? hn
    refine ⟨hid, ?_⟩
    rw [h.sound.aliased n (mem_nodes_of_node? hn), hid]
    rfl
  hangs := h.sound.hangs
  mem_children := h.sound.mem_children
  children_keys := h.sound.children_keys
  children_range := fun _ hentry => h.sound.lt_of_mem_children hentry
  siblings := fun _ hn _ hm _ _ => h.sound.eq_of_isChild hn hm
  find?_iff := fun _ => h.exists_find?_iff
  route_of_find? := fun _ _ hn => (h.sound.find?_eq_some_iff.mp hn).2
  joinCount_eq := h.joinCount_eq

/-- What a join does to a tree. -/
structure Performs (call : Call σ) (t : JoinTree) (s : σ) (t' : JoinTree) (id : Nat) (s' : σ) :
    Prop where
  /-- The nodes that were there stay as they are, -/
  grows : Grows t t'
  /-- and so do their entries in the index. -/
  indexed : ∀ entry ∈ t.children, entry ∈ t'.children
  arrives : ∃ n, t'.node? id = some n ∧ n.route = call.route
  /-- Each new node is asked for once and has the table that was given for it. -/
  asked : (((t'.joined.drop t.joinCount).map (·.entity)).mapM call.tableOf).run s =
    ((t'.joined.drop t.joinCount).map (·.table), s')
  /-- The same join a second time arrives at the same node, changes nothing and asks for nothing. -/
  again : t'.join call.tableOf call.hops = pure (t', id)

theorem Spans.exists_performs (h : Spans root lists t) (call : Call σ) (s : σ) :
    ∃ t' id s', (t.join call.tableOf call.hops).run s = ((t', id), s') ∧ Performs call t s t' id s' ∧
      (t' = t ↔ Covered lists call.route) := by
  obtain ⟨t', id, s', asked, hrun, hjoins, hasked⟩ := exists_joins_run call.tableOf t 0 call.hops s
  have h' : Spans root (lists ++ [call.route]) t' := h.join hjoins
  obtain ⟨n, hn, hroute⟩ := hjoins.arrives h.sound (node?_zero t)
  rw [h.root_eq, List.nil_append] at hroute
  have hindexed : ∀ entry ∈ t.children, entry ∈ t'.children :=
    fun _ => h.sound.mem_children_of_grows h'.sound hjoins.grows
  refine ⟨t', id, s', hrun, ⟨hjoins.grows, hindexed, ⟨n, hn, hroute⟩, ?_, ?_⟩, ?_⟩
  · obtain ⟨added, hjoined, rfl⟩ := hjoins.exists_added
    rw [List.map_map, List.map_map] at hasked
    rw [hjoined, joinCount, List.drop_left]
    exact hasked
  · refine joinFrom_of_findFrom? call.tableOf ?_
    refine (h'.sound.findFrom?_eq_some_iff (node?_zero t')).mpr ⟨n, hn, ?_⟩
    rw [h'.root_eq, List.nil_append]
    exact hroute
  · constructor
    · rintro rfl
      rw [← h.mem_routes, ← show n.route = call.route from hroute]
      exact List.mem_map_of_mem (mem_nodes_of_node? hn)
    · intro hcovered
      obtain ⟨last, hlast⟩ := h.exists_findFrom?_of_covered hcovered
      rw [joinFrom_of_findFrom? call.tableOf hlast] at hrun
      cases hrun
      rfl

/-- After any sequence of joins the tree is kept in order, and one more join adds what is missing of its
chain, if anything is. -/
theorem kept_of_joinAll (root : Entity) (calls : List (Call σ)) (s : σ) :
    ∃ t s', ((ofRoot root.name root.tableName).joinAll calls).run s = (t, s') ∧
      Kept root (calls.map Call.route) t ∧
      ∀ (call : Call σ) (s : σ), ∃ t' id s',
        (t.join call.tableOf call.hops).run s = ((t', id), s') ∧ Performs call t s t' id s' ∧
          (t' = t ↔ Covered (calls.map Call.route) call.route) := by
  obtain ⟨t, s', hrun, hspans⟩ := (spans_ofRoot root).exists_joinAll_run calls s
  rw [List.nil_append] at hspans
  exact ⟨t, s', hrun, hspans.kept, hspans.exists_performs⟩

/-- A relationship of this name to an entity. -/
def albumIn (entity : String) : Relationship := ⟨⟨entity, "album_id", "id", .one⟩, "tracks", "album"⟩

/-- A join with tables called like their entities, which notes for which entities they are asked. -/
def noting (hops : List Relationship) : Call (List String) where
  hops
  tableOf entity := do
    modify (· ++ [entity])
    return entity

/-- Of two relationships of one name the one that is crossed first decides. -/
example : (((ofRoot "tracks" "tracks").joinAll [noting [albumIn "albums"], noting [albumIn "records"]]).run
    []).map (·.joined.map (·.entity)) (fun asked => asked) = (["albums"], ["albums"]) := by
  decide

end DottedQuery.JoinTree
