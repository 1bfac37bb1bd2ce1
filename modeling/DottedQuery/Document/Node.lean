/-
# DottedQuery.Document.Node -- documents as trees in reading order

JSON, YAML and TOML texts are read into one kind of tree. A tree keeps the order and the
repetitions of the text. Where a text stops being well formed the tree has the leaf
`broken`, and nothing after it: whoever walks the tree in order meets what comes before the
fault first, and then the fault.

A scalar of JSON or TOML says by its spelling what it is. A scalar of YAML is a word whose
meaning depends on what is asked for; its tag and whether it was written plain are kept.
-/

namespace DottedQuery.Document

/-- The language a document is written in. -/
inductive Format where
  | json
  | yaml
  | toml
  deriving DecidableEq, Repr

/-- A scalar as far as its spelling settles it. -/
inductive Scalar where
  | null
  | bool (b : Bool)
  | int (n : Int)
  | float (x : Float)
  | text (s : String)
  /-- A date or a time, in its canonical text. -/
  | date (s : String)
  /-- A word with its tag; `plain` if it was written without quotes or indicators. -/
  | word (tag : Option String) (plain : Bool) (s : String)
  deriving Repr, Inhabited

/-- A document or a part of it. -/
inductive Node where
  | scalar (s : Scalar)
  | list (tag : Option String) (items : List Node)
  | record (tag : Option String) (members : List (Node × Node))
  /-- The absence of any node, where a document has no content at all. -/
  | absent
  /-- The place where the text stops being well formed. -/
  | broken
  deriving Repr, Inhabited

/-- The members of a record under text keys, as JSON and TOML write them. -/
def Node.ofMembers (members : List (String × Node)) : Node :=
  .record none (members.map fun (key, value) => (.scalar (.text key), value))

end DottedQuery.Document

namespace DottedQuery

/-- A whole text: its first document, and whether anything is wrong after the end of that
document. -/
structure Document where
  format : Document.Format
  root : Document.Node
  /-- Whether the text goes on, or goes wrong, after the document. -/
  overrun : Bool := false

end DottedQuery
