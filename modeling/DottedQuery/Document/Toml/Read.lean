/-
# DottedQuery.Document.Toml.Read -- reading TOML

A text is a sequence of statements: headers, which open a table, and assignments, which put
a value into the open table. All statements are read before the first is carried out; a
text with a statement that is not well formed, or that defines something twice, is refused
as a whole. The finished tables are read with their keys in order of code points.
-/
import DottedQuery.Document.Toml.Scalar

namespace DottedQuery.Document.Toml

/-! ## Tables -/

/-- How a table came to be, which settles what may be added to it. -/
inductive Origin where
  /-- Named on the way to another table. -/
  | implied
  /-- Opened by a header. -/
  | header
  /-- Made by a dotted key. -/
  | dotted
  /-- Written between braces: nothing may be added. -/
  | inline
  deriving DecidableEq

/-- A value under a key. -/
inductive Item where
  | node (n : Node)
  | array (items : List Item)
  | table (origin : Origin) (entries : List (String × Item))
  /-- The tables that headers in double brackets have opened. -/
  | tables (items : List (List (String × Item)))
  deriving Inhabited

/-- Entries of a table in the order of their definition. -/
abbrev Entries := List (String × Item)

/-- Replaces the item under a key that is present. -/
def replaceItem (key : String) (item : Item) (entries : Entries) : Entries :=
  entries.map fun entry => if entry.1 = key then (key, item) else entry

/-- Changes the table at the end of a dotted key. Its last table has to come from a dotted
key too; those before it may also be implied by headers. -/
def alongKey (change : Entries → Option Entries) : List String → Entries → Option Entries
  | [], entries => change entries
  | key :: rest, entries =>
    match entries.lookup key with
    | none => do return entries ++ [(key, .table .dotted (← alongKey change rest []))]
    | some (.table origin inner) =>
      if origin = .dotted ∨ (origin = .implied ∧ !rest.isEmpty) then do
        return replaceItem key (.table origin (← alongKey change rest inner)) entries
      else none
    | some _ => none

/-- Changes the table that a header leads to, entering the last of several tables. -/
def alongHeader (change : Entries → Option Entries) : List String → Entries → Option Entries
  | [], entries => change entries
  | key :: rest, entries =>
    match entries.lookup key with
    | none => do return entries ++ [(key, .table .implied (← alongHeader change rest []))]
    | some (.table origin inner) =>
      if origin = .inline then none
      else do return replaceItem key (.table origin (← alongHeader change rest inner)) entries
    | some (.tables items) => do
      let last ← alongHeader change rest (items.getLast?.getD [])
      return replaceItem key (.tables (items.dropLast ++ [last])) entries
    | some _ => none

/-- Defines a key that must be new. -/
def define (key : String) (item : Item) (entries : Entries) : Option Entries :=
  if (entries.lookup key).isSome then none else some (entries ++ [(key, item)])

/-- Puts a value under a dotted key. -/
def assign (path : List String) (item : Item) (entries : Entries) : Option Entries := do
  let key ← path.getLast?
  alongKey (define key item) path.dropLast entries

/-- Opens a table that no header has opened before. -/
def openTable (key : String) (entries : Entries) : Option Entries :=
  match entries.lookup key with
  | none => some (entries ++ [(key, .table .header [])])
  | some (.table .implied inner) => some (replaceItem key (.table .header inner) entries)
  | some _ => none

/-- Opens one more table under a key. -/
def openOneMore (key : String) (entries : Entries) : Option Entries :=
  match entries.lookup key with
  | none => some (entries ++ [(key, .tables [[]])])
  | some (.tables items) => some (replaceItem key (.tables (items ++ [[]])) entries)
  | some _ => none

/-! ## Keys and values -/

/-- A character of keys without quotes. -/
def isKeyChar (c : Char) : Bool := c.isAlphanum || c = '_' || c = '-'

/-- One part of a key. -/
def keyPart? (s : List Char) : Option (String × List Char) :=
  let bare := s.takeWhile isKeyChar
  if bare.isEmpty then string? false s else some (String.ofList bare, s.dropWhile isKeyChar)

/-- How many parts a key may have, and how deeply values may be nested. -/
def depthLimit : Nat := 80

/-- A dotted key of at most so many parts; blanks may stand around its dots. -/
def keyParts? : Nat → List Char → Option (List String × List Char)
  | 0, _ => none
  | limit + 1, s => do
    let (part, rest) ← keyPart? (skipBlanks s)
    match skipBlanks rest with
    | '.' :: rest =>
      let (parts, rest) ← keyParts? limit rest
      return (part :: parts, rest)
    | rest => return ([part], rest)

/-- A dotted key. -/
def key? (s : List Char) : Option (List String × List Char) := keyParts? depthLimit s

mutual

/-- A value, in which arrays and tables may be nested to some depth. -/
def value? : Nat → (depth : Nat) → List Char → Option (Item × List Char)
  | 0, _, _ => none
  | fuel + 1, depth, s =>
    match depth, s with
    | _, [] => none
    | 0, '[' :: _ | 0, '\x7b' :: _ => none
    | depth + 1, '[' :: rest =>
      (items? fuel depth true rest).map fun (items, rest) => (.array items, rest)
    | depth + 1, '\x7b' :: rest =>
      (members? fuel depth true [] rest).map fun (entries, rest) => (.table .inline entries, rest)
    | _, c :: _ =>
      if c = '"' ∨ c = '\'' then
        (string? true s).map fun (text, rest) => (.node (.scalar (.text text)), rest)
      else
        let (word, rest) := takeWord s
        (wordNode? word).map fun n => (.node n, rest)

/-- The items of an array up to its bracket. A comma may follow the last. -/
def items? : Nat → Nat → Bool → List Char → Option (List Item × List Char)
  | 0, _, _, _ => none
  | fuel + 1, depth, first, s =>
    match first, skipLines fuel s with
    | _, ']' :: rest => some ([], rest)
    | true, rest => itemAnd? fuel depth rest
    | false, ',' :: rest =>
      match skipLines fuel rest with
      | ']' :: rest => some ([], rest)
      | rest => itemAnd? fuel depth rest
    | false, _ => none

/-- An item and those after it. -/
def itemAnd? : Nat → Nat → List Char → Option (List Item × List Char)
  | 0, _, _ => none
  | fuel + 1, depth, s => do
    let (item, rest) ← value? fuel depth s
    let (items, rest) ← items? fuel depth false rest
    return (item :: items, rest)

/-- The members of a table up to its brace, added to those before them. A comma may follow
the last. -/
def members? : Nat → Nat → Bool → Entries → List Char → Option (Entries × List Char)
  | 0, _, _, _, _ => none
  | fuel + 1, depth, first, entries, s =>
    match first, skipLines fuel s with
    | _, '\x7d' :: rest => some (entries, rest)
    | true, rest => memberAnd? fuel depth entries rest
    | false, ',' :: rest =>
      match skipLines fuel rest with
      | '\x7d' :: rest => some (entries, rest)
      | rest => memberAnd? fuel depth entries rest
    | false, _ => none

/-- A member and those after it. Its value need not stand on the line of its key. -/
def memberAnd? : Nat → Nat → Entries → List Char → Option (Entries × List Char)
  | 0, _, _, _ => none
  | fuel + 1, depth, entries, s => do
    let (path, rest) ← key? s
    let rest ← expect? '=' (skipLines fuel rest)
    let (item, rest) ← value? fuel depth (skipLines fuel rest)
    members? fuel depth false (← assign path item entries) rest

end

/-! ## Statements -/

/-- A statement. -/
inductive Statement where
  | header (path : List String)
  | oneMore (path : List String)
  | assignment (path : List String) (item : Item)

/-- The key of a header and the brackets that close it. -/
def header? (close : List Char) (s : List Char) : Option (List String × List Char) := do
  let (path, rest) ← key? s
  if close.isPrefixOf rest then return (path, rest.drop close.length) else none

/-- A statement at the beginning of a line. -/
def statement? (s : List Char) : Option (Statement × List Char) :=
  match s with
  | '[' :: '[' :: rest =>
    (header? [']', ']'] rest).map fun (path, rest) => (.oneMore path, rest)
  | '[' :: rest => (header? [']'] rest).map fun (path, rest) => (.header path, rest)
  | s => do
    let fuel := 3 * s.length + 3
    let (path, rest) ← key? s
    let (item, rest) ← value? fuel depthLimit (skipBlanks (← expect? '=' rest))
    return (.assignment path item, rest)

/-- The statements of a text, one to a line. -/
def statements? : Nat → List Char → Option (List Statement)
  | 0, _ => none
  | fuel + 1, s => do
    let s := skipLines (s.length + 1) s
    if s.isEmpty then return []
    let (statement, rest) ← statement? s
    let rest := skipComment (skipBlanks rest)
    let rest ← if rest.isEmpty then some [] else lineEnd? rest
    return statement :: (← statements? fuel rest)

/-- Carries out a statement on the tables and the path of the open one. -/
def carryOut (state : Entries × List String) (statement : Statement) :
    Option (Entries × List String) :=
  let (entries, opened) := state
  match statement with
  | .header path => do
    let key ← path.getLast?
    return (← alongHeader (openTable key) path.dropLast entries, path)
  | .oneMore path => do
    let key ← path.getLast?
    return (← alongHeader (openOneMore key) path.dropLast entries, path)
  | .assignment path item => do
    return (← alongHeader (assign path item) opened entries, opened)

/-! ## Documents -/

/-- Members in the order of their keys. -/
def sortMembers (members : List (String × Node)) : List (String × Node) :=
  members.mergeSort fun a b => a.1 ≤ b.1

mutual

/-- An item as a node of a document. -/
def Item.toNode : Item → Node
  | .node n => n
  | .array items => .list none (nodesOfItems items)
  | .table _ entries => .ofMembers (sortMembers (membersOfEntries entries))
  | .tables items => .list none (nodesOfTables items)

/-- The nodes of the items of an array. -/
def nodesOfItems : List Item → List Node
  | [] => []
  | item :: rest => item.toNode :: nodesOfItems rest

/-- The members of a table. -/
def membersOfEntries : List (String × Item) → List (String × Node)
  | [] => []
  | (key, item) :: rest => (key, item.toNode) :: membersOfEntries rest

/-- The nodes of several tables. -/
def nodesOfTables : List (List (String × Item)) → List Node
  | [] => []
  | entries :: rest => .ofMembers (sortMembers (membersOfEntries entries)) :: nodesOfTables rest

end

/-- A whole text. -/
def read (text : String) : Document :=
  let s := text.toList
  let s := if s.head? = some '\uFEFF' then s.tail else s
  let root := do
    let (entries, _) ← (← statements? (s.length + 1) s).foldlM carryOut ([], [])
    return (Item.table .header entries).toNode
  { format := .toml, root := root.getD .broken }

end DottedQuery.Document.Toml
