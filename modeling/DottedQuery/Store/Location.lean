/-
# DottedQuery.Store.Location -- what the name of a database says

A database is named by a path. A name that begins with `file:` says more: a path, and after a
question mark parameters that tell how the file is opened; what follows a number sign is left
out. In such a name a percent sign with two digits spells a byte. A path leads to its file by
its spelling alone, so that `..` takes back the part before it even where that part is
missing; but no name can stand below a file.
-/
import DottedQuery.Files
import DottedQuery.Text.Hex

namespace DottedQuery.Store

/-! ## Access -/

/-- How a file is opened. -/
inductive Access where
  | readOnly
  | readWrite
  /-- For reading and writing; a missing file is made. -/
  | create
  /-- Not at all: the database lies in memory. -/
  | memory
  deriving DecidableEq, Repr

/-- The kinds of access by name. -/
def Access.named : List (String × Access) :=
  [("ro", readOnly), ("rw", readWrite), ("rwc", create), ("memory", memory)]

/-- How much a kind of access permits. -/
def Access.rank : Access → Nat
  | memory => 0
  | readOnly => 1
  | readWrite => 2
  | create => 3

/-- Whether one kind of access may take the place of another: not if it permits more. Memory
admits everything. -/
def Access.admits (current next : Access) : Bool :=
  current = memory || next.rank ≤ current.rank

/-! ## Locations -/

/-- Where a database lies. -/
structure Location where
  path : String
  access : Access := .create
  /-- The way in which the system gets at the file. -/
  driver : Option String := none
  /-- The file whose permissions a new file takes over. -/
  pattern : Option String := none
  deriving DecidableEq, Repr

/-- The name of a database that lies in memory only. -/
def memoryName : String := ":memory:"

/-- The way that leads to no file but into memory. -/
def memoryDriver : String := "memdb"

/-- The known ways. -/
def knownDrivers : List String :=
  ["unix", "unix-none", "unix-dotfile", "unix-excl", memoryDriver]

/-- Whether a database lies in memory only. Without path it lies in a file of its own that is
soon gone, which is no different. -/
def Location.inMemory (l : Location) : Bool :=
  l.path = "" || l.path = memoryName || l.access = .memory || l.driver = some memoryDriver

/-! ## Names with parameters -/

/-- The bytes of a part of a name. A percent sign with two digits spells a byte, and the zero
byte ends the part. -/
def partBytes : List Char → List UInt8
  | [] => []
  | '%' :: high :: low :: rest =>
    match Text.hexNumber? [high, low] with
    | some 0 => []
    | some n => UInt8.ofNat n :: partBytes rest
    | none => String.utf8EncodeChar '%' ++ partBytes (high :: low :: rest)
  | c :: rest => String.utf8EncodeChar c ++ partBytes rest

/-- The text of a part of a name. -/
def partText (part : List Char) : String := Text.ofUtf8Lossy (partBytes part)

/-- Takes note of a parameter. Unknown parameters mean nothing, but unknown values of known
ones are refused; of the ways to the file only the last one named has to be known. -/
def Location.adjust (l : Location) (name value : String) : Option Location :=
  if name = "vfs" then some { l with driver := some value }
  else if name = "cache" then if value ∈ ["shared", "private"] then some l else none
  else if name = "mode" then do
    let next ← Access.named.lookup value
    if l.access.admits next then some { l with access := next } else none
  else if name = "modeof" then some { l with pattern := l.pattern.or (some value) }
  else some l

/-- Takes note of a parameter as it is spelled, `name=value`. Without a name it is skipped. -/
def Location.addParameter (l : Location) (spelled : List Char) : Option Location :=
  let name := partText (spelled.takeWhile (· ≠ '='))
  if name.isEmpty then some l
  else l.adjust name (partText ((spelled.dropWhile (· ≠ '=')).drop 1))

/-- What follows the machine, which may be named after two slashes and has to be this one. -/
def afterMachine? : List Char → Option (List Char)
  | '/' :: '/' :: rest =>
    let machine := String.ofList (rest.takeWhile (· ≠ '/'))
    if machine = "" || machine = "localhost" then some (rest.dropWhile (· ≠ '/')) else none
  | spelled => some spelled

/-- Reads what follows `file:`. -/
def Location.ofSpelled? (spelled : List Char) : Option Location := do
  let spelled := (← afterMachine? spelled).takeWhile (· ≠ '#')
  let path := spelled.takeWhile (· ≠ '?')
  let parameters := ((spelled.dropWhile (· ≠ '?')).drop 1).splitOn '&'
  let l ← parameters.foldlM Location.addParameter { path := partText path }
  if l.driver.all (· ∈ knownDrivers) then some l else none

/-- Where a database of this name lies, if the name makes sense. -/
def Location.ofName? (name : String) : Option Location :=
  match name.toList with
  | 'f' :: 'i' :: 'l' :: 'e' :: ':' :: rest => Location.ofSpelled? rest
  | spelled => if '\x00' ∈ spelled then none else some { path := name }

/-! ## From paths to files -/

/-- How many bytes a path may have, counted from the working directory or from the root. -/
def pathLimit : Nat := 504

/-- The size of a path in bytes, with a slash before each part. -/
def pathSize (steps : List String) : Nat :=
  (steps.filter (· ≠ rootStep)).foldl (fun n step => n + 1 + step.utf8ByteSize) 0

/-- Takes a part of a path from `here`. No name stands below a file. -/
def advance? (files : Files) (here : List String) (part : String) : Option (List String) :=
  if !isStep part then some here
  else if part = ".." then some (above here)
  else
    match files.at? here with
    | some (.file _) => none
    | some .directory => if part.utf8ByteSize > partLimit then none else some (here ++ [part])
    | none => some (here ++ [part])

/-- The steps that a path comes down to. -/
def pathSteps? (files : Files) (path : String) : Option (List String) := do
  let steps ← (nameParts path).foldlM (advance? files) (startOf path)
  if pathSize steps ≤ pathLimit then some steps else none

end DottedQuery.Store
