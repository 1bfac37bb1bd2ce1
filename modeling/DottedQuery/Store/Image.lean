/-
# DottedQuery.Store.Image -- the pages of a database file

A database file is a sequence of pages of one size, which are numbered from one. It begins with
a header that tells the size, how many pages there are and how texts are spelled. A file whose
last page is cut short goes on with zeros. A page beyond the last has no content.
-/
import DottedQuery.Store.Error
import DottedQuery.Store.RecordBytes

namespace DottedQuery.Store

/-! ## The header -/

/-- What a database file begins with. -/
def signature : List UInt8 := Text.toUtf8 "SQLite format 3\x00"

/-- The size of the file header, which lies at the beginning of the first page. -/
def headerSize : Nat := 100

/-- The parts of a page that cells may take, as the header has to tell them. -/
def pageShares : List UInt8 := [64, 32, 32]

/-- The latest way of reading a file that is known. -/
def readingLimit : Nat := 2

/-- The latest format of definitions that is known. -/
def formatLimit : Nat := 4

/-- What the header of a file tells. -/
structure ImageHeader where
  bytes : List UInt8

namespace ImageHeader

/-- The header of a file, with zeros where the file ends before. -/
def ofBytes (bytes : List UInt8) : ImageHeader :=
  ⟨(bytes ++ List.replicate headerSize 0).take headerSize⟩

variable (h : ImageHeader)

/-- A part of the header. -/
def part (start length : Nat) : List UInt8 := (h.bytes.drop start).take length

/-- The size of the pages. The greatest size does not fit into the header. -/
def pageSize : Nat :=
  let written := bigEndian (h.part 16 2)
  if written = 1 then 65536 else written

/-- How many bytes at the end of each page are kept for other use. -/
def reserved : Nat := bigEndian (h.part 20 1)

/-- The number of pages, unless it is not noted or was noted before the last change. -/
def pages? : Option Nat :=
  let written := bigEndian (h.part 28 4)
  if written = 0 || h.part 24 4 ≠ h.part 92 4 then none else some written

/-- How texts are spelled. -/
def encoding : TextEncoding :=
  match bigEndian (h.part 56 4) % 4 with
  | 2 => .utf16 .littleFirst
  | 3 => .utf16 .bigFirst
  | _ => .utf8

/-- Whether the file is a database that can be read. -/
def isReadable : Bool :=
  h.part 0 16 = signature && bigEndian (h.part 19 1) ≤ readingLimit &&
    h.part 21 3 = pageShares && 512 ≤ h.pageSize && Nat.pow 2 h.pageSize.log2 = h.pageSize

/-- Whether the definitions in the file can be understood. -/
def isFamiliar : Bool := bigEndian (h.part 47 1) ≤ formatLimit

end ImageHeader

/-! ## The file -/

/-- A database file. The end of each page may be kept for other use. -/
structure Image where
  bytes : Array UInt8
  pageSize : Nat
  usable : Nat
  pages : Nat
  encoding : TextEncoding

namespace Image

/-- The least number of bytes of a page that have to be in use. -/
def usableLimit : Nat := 480

/-- A database file by its bytes. -/
def ofBytes (bytes : List UInt8) : Except StoreError Image :=
  let h := ImageHeader.ofBytes bytes
  if !h.isReadable then .error .notDatabase
  else
    let whole := (bytes.length + h.pageSize - 1) / h.pageSize
    let pages := h.pages?.getD whole
    if whole < pages then .error .damaged
    else if h.pageSize < h.reserved + usableLimit then .error .notDatabase
    else if !h.isFamiliar then .error .unfamiliar
    else
      let missing := whole * h.pageSize - bytes.length
      .ok { bytes := (bytes ++ List.replicate missing 0).toArray, pageSize := h.pageSize,
            usable := h.pageSize - h.reserved, pages, encoding := h.encoding }

/-- A part of the file. -/
def slice? (image : Image) (start length : Nat) : Option (List UInt8) :=
  if start + length ≤ image.bytes.size then
    some (image.bytes.extract start (start + length)).toList
  else none

/-- The number in a part of the file. -/
def number? (image : Image) (start length : Nat) : Option Nat :=
  (image.slice? start length).map bigEndian

/-- The numbers of varying size that begin at a place, as far as the file goes. -/
def varyingsAt (image : Image) (start : Nat) : List Varying :=
  varyings (image.bytes.extract start (start + 2 * varyingLimit)).toList

/-- Where a page begins. -/
def start? (image : Image) (page : Nat) : Option Nat :=
  if 1 ≤ page && page ≤ image.pages then some ((page - 1) * image.pageSize) else none

/-- The content of a chain of so many pages. Each begins with the number of the next. -/
def chain? (image : Image) : Nat → Nat → Option (List UInt8)
  | 0, _ => some []
  | length + 1, page => do
    let start ← image.start? page
    let next ← image.number? start 4
    let content ← image.slice? (start + 4) (image.usable - 4)
    return content ++ (← image.chain? length next)

end Image

end DottedQuery.Store
