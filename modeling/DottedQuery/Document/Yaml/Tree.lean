/-
# DottedQuery.Document.Yaml.Tree -- a YAML text as it is written, aliases included

A node may carry an anchor, and an alias elsewhere stands for that node. A tree keeps the
aliases as they are written; `Tree.expanded` puts in their place the nodes they stand for,
in reading order. An alias inside the node it stands for would go on for ever, and a few
lines can spell an enormous document. So the aliases that are replaced are counted, as often
as they are met: a document may replace a hundred for each event it consists of, and where
the next one stands it is malformed. It is malformed as well where it is nested too deeply.
-/
import DottedQuery.Document.Node

namespace DottedQuery.Document.Yaml

/-- A node as it is written. -/
inductive Tree where
  /-- A word with its tag; `plain` if it is written without quotes or indicators. -/
  | word (tag : Option String) (plain : Bool) (text : String)
  | list (tag : Option String) (items : List Tree)
  | record (tag : Option String) (members : List (Tree × Tree))
  /-- The node that carries an anchor. -/
  | aliased (anchor : Nat)
  /-- The place where the text stops being well formed. -/
  | broken
  deriving Repr, Inhabited

/-- Nodes that carry anchors, under the numbers of the anchors. -/
abbrev Anchors := List (Nat × Tree)

namespace Tree

/-! ## Aliases replaced -/

/-- The node with the aliases in it replaced, down to some depth. The state is the number of
aliases that may still be replaced. -/
def expand (anchors : Anchors) : Nat → Tree → StateM Nat Node
  | 0, _ => return .broken
  | depth + 1, tree =>
    match tree with
    | word tag plain text => return .scalar (.word tag plain text)
    | list tag items => return .list tag (← items.mapM (expand anchors depth))
    | record tag members =>
      return .record tag (← members.mapM fun member => do
        return (← expand anchors depth member.1, ← expand anchors depth member.2))
    | aliased anchor => do
      match ← get, anchors.lookup anchor with
      | left + 1, some target =>
        set left
        expand anchors depth target
      | _, _ => return .broken
    | broken => return .broken

/-! ## How much may be replaced -/

mutual

/-- How many events make up a node: one for a word or an alias, and for a collection its
start, its end and what is in between. -/
def events : Tree → Nat
  | word _ _ _ | aliased _ => 1
  | list _ items => itemEvents items + 2
  | record _ members => memberEvents members + 2
  | broken => 0

/-- How many events make up the items of a list. -/
def itemEvents : List Tree → Nat
  | [] => 0
  | item :: rest => item.events + itemEvents rest

/-- How many events make up the members of a record. -/
def memberEvents : List (Tree × Tree) → Nat
  | [] => 0
  | (key, value) :: rest => key.events + value.events + memberEvents rest

end

/-- How deeply a document may be nested, aliases counted as levels. No structure that is
read out of a document is nearly as deep. -/
def depthLimit : Nat := 128

/-- How many aliases may be replaced for each event of a document. -/
def aliasesPerEvent : Nat := 100

/-- The root of a document with the aliases in it replaced. -/
def expanded (anchors : Anchors) (root : Tree) : Node :=
  (root.expand anchors depthLimit |>.run (aliasesPerEvent * root.events)).1

end Tree

end DottedQuery.Document.Yaml
