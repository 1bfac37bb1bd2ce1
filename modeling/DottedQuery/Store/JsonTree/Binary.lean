/-
# DottedQuery.Store.JsonTree.Binary -- JSON documents as blobs

A document can be kept as a blob. Each part begins with a byte whose lower half is its kind and
whose upper half is the size of what follows, or tells how many bytes the size takes. An array
is made of its items, an object of labels and values in turn.
-/
import DottedQuery.Store.JsonTree.Basic

namespace DottedQuery.Store

namespace JsonTree

/-! ## Writing -/

/-- A number in so many bytes. -/
def sizeBytes (count n : Nat) : List Char :=
  ((List.range count).map fun i => Char.ofNat (n / Nat.pow 256 i % 256)).reverse

/-- A part of some kind. -/
def part (kind : Nat) (content : List Char) : List Char :=
  let n := content.length
  let head (mark count : Nat) : List Char :=
    Char.ofNat (mark * 16 + kind) :: sizeBytes count n
  (if n ≤ 11 then head n 0
    else if n < 256 then head 12 1
    else if n < 65536 then head 13 2
    else head 14 4) ++ content

/-- The kind of a text. -/
def textKind : TextForm → Nat
  | .plain => 7
  | .escaped => 8
  | .loose => 9
  | .raw => 10

/-- A text as a part. -/
def textPart (t : SpelledText) : List Char := part (textKind t.form) t.spelling

mutual
/-- A document as bytes. -/
def binary : JsonTree → List Char
  | null => part 0 []
  | truth true => part 1 []
  | truth false => part 2 []
  | int s => part 3 s
  | hex s => part 4 s
  | real s => part 5 s
  | looseReal s => part 6 s
  | text t => textPart t
  | array items => part 11 (binaryAll items).flatten
  | object labels values =>
    part 12 ((labels.zip (binaryAll values)).flatMap fun (label, s) => textPart label ++ s)

/-- Documents as bytes. -/
def binaryAll : List JsonTree → List (List Char)
  | [] => []
  | t :: rest => binary t :: binaryAll rest
end

/-! ## Reading -/

/-- A part that is read: its kind, its content, and what follows it. -/
structure BinaryPart where
  kind : Nat
  content : List Char
  rest : List Char

/-- The number that bytes spell. -/
def sizeOf (bytes : List Char) : Nat := bytes.foldl (fun n c => n * 256 + c.toNat) 0

/-- The part at the beginning of some bytes. -/
def partAt? (s : List Char) : Option BinaryPart := do
  let c ← s.head?
  let mark := c.toNat / 16
  let count := if mark < 12 then 0 else Nat.pow 2 (mark - 12)
  let sizes := s.tail.take count
  let size := if mark < 12 then mark else sizeOf sizes
  let body := s.tail.drop count
  if sizes.length = count && size ≤ body.length then
    return ⟨c.toNat % 16, body.take size, body.drop size⟩
  else none

/-- The parts that some bytes consist of, at most so many. -/
def partsOf? : Nat → List Char → Option (List BinaryPart)
  | _, [] => some []
  | 0, _ => none
  | limit + 1, s => do
    let part ← partAt? s
    return part :: (← partsOf? limit part.rest)

/-- The form of a text of some kind. -/
def textForm? : Nat → Option TextForm
  | 7 => some .plain
  | 8 => some .escaped
  | 9 => some .loose
  | 10 => some .raw
  | _ => none

/-- A text that is read as a part. -/
def BinaryPart.text? (p : BinaryPart) : Option SpelledText :=
  (textForm? p.kind).map (⟨·, p.content⟩)

/-- Every second element, beginning with the first. -/
def everySecond {α : Type} : List α → List α
  | a :: _ :: rest => a :: everySecond rest
  | rest => rest

/-- The document that a part is, of a limited depth. -/
def ofPart? : Nat → BinaryPart → Option JsonTree
  | 0, _ => none
  | depth + 1, p =>
    match p.kind with
    | 0 => some .null
    | 1 => some (.truth true)
    | 2 => some (.truth false)
    | 3 => some (.int p.content)
    | 4 => some (.hex p.content)
    | 5 => some (.real p.content)
    | 6 => some (.looseReal p.content)
    | 11 => do
      let parts ← partsOf? p.content.length p.content
      return .array (← parts.mapM (ofPart? depth))
    | 12 => do
      let parts ← partsOf? p.content.length p.content
      if parts.length % 2 = 1 then none
      let labels ← (everySecond parts).mapM BinaryPart.text?
      return .object labels (← (everySecond parts.tail).mapM (ofPart? depth))
    | _ => p.text?.map .text

/-- Whether bytes look like a document: one part that takes up all of them. -/
def looksBinary (s : List Char) : Bool :=
  match partAt? s with
  | some p => p.rest.isEmpty && p.kind ≤ 12 && (2 < p.kind || p.content.isEmpty)
  | none => false

/-- The document that bytes spell. -/
def ofBinary? (s : List Char) : Option JsonTree := do ofPart? 1000 (← partAt? s)

end JsonTree

end DottedQuery.Store
