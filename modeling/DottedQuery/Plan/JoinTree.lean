/-
# DottedQuery.Plan.JoinTree -- which tables are joined, and how

The root is the table of the root entity. Every other node is joined to its parent through
a relationship, and two nodes of one parent never share the relationship's name: a chain of
names leads from the root to at most one node. Joining a chain of relationships reuses the
nodes that are there and adds the missing ones at the end, so nodes are numbered in the
order of their creation and a parent comes before its children.

Children are looked up in an index that is kept beside the nodes: whoever adds a node enters
it there as well. Every node keeps the alias that it was given with its number.
-/
import DottedQuery.Catalog.Entity

namespace DottedQuery

/-! ## Nodes -/

/-- How a node is reached: the number of its parent and the relationship crossed. -/
structure Arrival where
  parent : Nat
  edge : Relationship
  deriving DecidableEq, Repr

/-- A table in the role it plays in a query. -/
structure JoinNode where
  id : Nat
  /-- None for the root. -/
  arrival : Option Arrival
  entity : String
  table : String
  /-- The name under which the table takes part in the query. -/
  aliasName : String
  /-- The names of the relationships that lead here from the root. -/
  route : List String
  deriving DecidableEq, Repr

/-- The alias of the node of this number. -/
def aliasOf (id : Nat) : String := "t" ++ toString id

namespace JoinNode

/-- Whether nothing leads to the node. -/
def isRoot (n : JoinNode) : Bool := n.arrival.isNone

/-- The route as dotted text. -/
def routeKey (n : JoinNode) : String := String.intercalate "." n.route

/-- Whether one record of the parent may have many records here. -/
def isMany (n : JoinNode) : Bool := n.arrival.any fun arrival => arrival.edge.cardinality = .many

end JoinNode

/-! ## Trees -/

/-- A root and the nodes joined to it, in the order of their creation. -/
structure JoinTree where
  root : JoinNode
  joined : List JoinNode := []
  /-- The numbers of children by the number of the parent and the name of the relationship. -/
  children : List ((Nat × String) × Nat) := []
  deriving DecidableEq, Repr

namespace JoinTree

/-- The tree of a table alone. -/
def ofRoot (entity table : String) : JoinTree where
  root := ⟨0, none, entity, table, aliasOf 0, []⟩

/-- All nodes by number. -/
def nodes (t : JoinTree) : List JoinNode := t.root :: t.joined

/-- The node of this number. -/
def node? (t : JoinTree) (id : Nat) : Option JoinNode := t.nodes[id]?

/-- The node of a number that is known to be one. -/
def node (t : JoinTree) (id : Nat) : JoinNode := (t.node? id).getD t.root

/-- How many tables are joined to the root. -/
def joinCount (t : JoinTree) : Nat := t.joined.length

/-- Whether one record of the root may give many rows. -/
def fansOut (t : JoinTree) : Bool := t.joined.any JoinNode.isMany

/-- The number of the child of this parent under this name. -/
def child? (t : JoinTree) (parent : Nat) (name : String) : Option Nat :=
  valueAt? (parent, name) t.children

/-- The number of the node at the end of a chain of names from a node. -/
def findFrom? (t : JoinTree) (id : Nat) : List String → Option Nat
  | [] => some id
  | name :: rest => (t.child? id name).bind fun child => t.findFrom? child rest

/-- The node at the end of a chain of names from the root. -/
def find? (t : JoinTree) (names : List String) : Option JoinNode :=
  (t.findFrom? 0 names).bind t.node?

/-- The names that lead to the node of this number. -/
def routeTo (t : JoinTree) (id : Nat) : List String := (t.node id).route

/-- The node that is added for a relationship crossed from a parent. -/
def newNode (t : JoinTree) (parent : Nat) (edge : Relationship) (table : String) : JoinNode where
  id := t.nodes.length
  arrival := some ⟨parent, edge⟩
  entity := edge.target
  table
  aliasName := aliasOf t.nodes.length
  route := t.routeTo parent ++ [edge.name]

/-- Adds a child at the end and enters it in the index. -/
def attach (t : JoinTree) (parent : Nat) (edge : Relationship) (table : String) : JoinTree where
  root := t.root
  joined := t.joined ++ [t.newNode parent edge table]
  children := putEntry (parent, edge.name) t.nodes.length t.children

/-! ## Joining -/

/-- Crosses one relationship from a node. A new node asks for the table of its entity. -/
def cross {m : Type → Type} [Monad m] (tableOf : String → m String) (t : JoinTree) (parent : Nat)
    (edge : Relationship) : m (JoinTree × Nat) :=
  match t.child? parent edge.name with
  | some child => pure (t, child)
  | none => do
    let table ← tableOf edge.target
    pure (t.attach parent edge table, t.nodes.length)

/-- Crosses a chain of relationships from a node. -/
def joinFrom {m : Type → Type} [Monad m] (tableOf : String → m String) (t : JoinTree)
    (id : Nat) : List Relationship → m (JoinTree × Nat)
  | [] => pure (t, id)
  | edge :: rest => do
    let (t, next) ← t.cross tableOf id edge
    t.joinFrom tableOf next rest

/-- Joins a chain of relationships to the root and gives the number of the last node. -/
def join {m : Type → Type} [Monad m] (tableOf : String → m String) (t : JoinTree)
    (hops : List Relationship) : m (JoinTree × Nat) :=
  t.joinFrom tableOf 0 hops

end JoinTree

end DottedQuery
