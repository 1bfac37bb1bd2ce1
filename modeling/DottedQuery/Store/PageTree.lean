/-
# DottedQuery.Store.PageTree -- trees of pages

The rows of a table lie in a tree of pages: an inner page lists the pages below it, and a leaf
holds cells. In the tree of a table that keeps its rows by their keys, a cell of a leaf is the
key and the record of a row. In the tree of an index, inner pages hold records too, each
between two pages below. A record that is too long for its page goes on in a chain of further
pages. A tree whose pages do not hang together has no rows.
-/
import DottedQuery.Store.Database
import DottedQuery.Store.Image

namespace DottedQuery.Store

/-- What a tree of pages is for. -/
inductive TreeKind where
  | table
  | index
  deriving DecidableEq, Repr

namespace TreeKind

/-- The mark of the leaves. -/
def leafMark : TreeKind → Nat
  | table => 13
  | index => 10

/-- The mark of the inner pages. -/
def innerMark : TreeKind → Nat
  | table => 5
  | index => 2

end TreeKind

/-- A page of a tree. -/
structure TreePage where
  mark : Nat
  /-- Where the cells begin. -/
  cells : List Nat
  /-- The page below that comes after all cells, if there are pages below. -/
  last : Nat
  deriving DecidableEq, Repr

/-- How many pages a way from the root to a leaf may have. -/
def depthLimit : Nat := 20

namespace Image

/-! ## Pages -/

/-- A page as a page of a tree. The list of its cells comes after its own header. -/
def treePage? (image : Image) (page : Nat) : Option TreePage := do
  let start ← image.start? page
  let head := if page = 1 then start + headerSize else start
  let mark ← image.number? head 1
  let count ← image.number? (head + 3) 2
  let last ← image.number? (head + 8) 4
  let isInner := [TreeKind.table, .index].any (·.innerMark = mark)
  let list := head + if isInner then 12 else 8
  if (image.pageSize - 8) / 6 < count then none
  else
    let cells ← (List.range count).mapM fun i => do
      let place ← image.number? (list + 2 * i) 2
      return start + place % image.pageSize
    return ⟨mark, cells, last⟩

/-- Where the rows of a tree begin, from the root on a way of limited length. Only the first
page of a file may have a single page below it, and pages below others are never empty. -/
def places? (image : Image) (kind : TreeKind) : Nat → Nat → Option (List Nat)
  | 0, _ => none
  | depth + 1, page => do
    let p ← image.treePage? page
    if p.mark = kind.leafMark then return p.cells
    else if p.mark ≠ kind.innerMark || (p.cells.isEmpty && page ≠ 1) then none
    else
      let below (page : Nat) : Option (List Nat) := do
        if (← image.treePage? page).cells.isEmpty then none else image.places? kind depth page
      let parts ← p.cells.mapM fun cell => do
        let before ← below (← image.number? cell 4)
        return if kind = .index then before ++ [cell + 4] else before
      return parts.flatten ++ (← below p.last)

/-! ## Records -/

/-- How many bytes of a record of this size lie on the page of its cell. -/
def localSize (image : Image) (kind : TreeKind) (size : Nat) : Nat :=
  let share (part : Nat) : Nat := (image.usable - 12) * part / 255 - 23
  let most :=
    match kind with
    | .table => image.usable - 35
    | .index => share 64
  let least := share 32
  let fitting := least + (size - least) % (image.usable - 4)
  if size ≤ most then size else if fitting ≤ most then fitting else least

/-- The bytes of the record of this size that begins at a place of a page. -/
def record? (image : Image) (kind : TreeKind) (start size : Nat) : Option (List UInt8) := do
  let here := image.localSize kind size
  let content ← image.slice? start here
  if image.pageSize < start % image.pageSize + here then none
  else if here = size then return content
  else
    let next ← image.number? (start + here) 4
    let room := image.usable - 4
    let others ← image.chain? ((size - here + room - 1) / room) next
    return content ++ others.take (size - here)

/-- The record whose cell begins at a place of a leaf. -/
def keyed? (image : Image) (start : Nat) : Option Record :=
  match image.varyingsAt start with
  | size :: key :: _ => do
    let bytes ← image.record? .table (start + size.size + key.size) size.value
    return ⟨Int64.ofInt key.value, ← recordCells? image.encoding bytes⟩
  | _ => none

/-- The cells of the record that begins at a place of an index. -/
def unkeyed? (image : Image) (start : Nat) : Option Row :=
  match image.varyingsAt start with
  | size :: _ => do
    recordCells? image.encoding (← image.record? .index (start + size.size) size.value)
  | [] => none

/-- The records of the table whose tree has its root on a page, by their keys. -/
def records? (image : Image) (root : Nat) : Option (List Record) := do
  (← image.places? .table depthLimit root).mapM image.keyed?

/-- The rows of the index whose tree has its root on a page, in its order. They are counted in
place of keys. -/
def indexRecords? (image : Image) (root : Nat) : Option (List Record) := do
  let rows ← (← image.places? .index depthLimit root).mapM image.unkeyed?
  return rows.mapIdx fun i cells => ⟨Int64.ofNat i, cells⟩

end Image

end DottedQuery.Store
