/-
# DottedQuery.Files -- the files that a command can see

A file tree: names with slashes, from the working directory or from the root of the system,
and for each either bytes or a database. A directory exists if it is listed or if files lie
in it. Names are resolved step by step, so that `.` and `..` and a name below a file come
out as an operating system has them.
-/
import DottedQuery.Store.Database
import DottedQuery.Text.Utf8

namespace DottedQuery

/-- What a file holds. -/
inductive FileContent where
  | bytes (bytes : List UInt8)
  | database (db : Store.Database)
  /-- No file but a directory. -/
  | directory
  deriving Inhabited

/-- Files by name. -/
structure Files where
  entries : List (String × FileContent) := []
  deriving Inhabited

/-- Why a file cannot be read. -/
inductive FileError where
  | notFound
  | notDirectory
  | isDirectory
  | nameTooLong
  /-- The name holds the character that would end it. -/
  | nameBroken
  | notUtf8
  deriving DecidableEq, Repr

/-- The system's words for the cause. -/
def FileError.message : FileError → String
  | notFound => "No such file or directory (os error 2)"
  | notDirectory => "Not a directory (os error 20)"
  | isDirectory => "Is a directory (os error 21)"
  | nameTooLong => "File name too long (os error 36)"
  | nameBroken => "file name contained an unexpected NUL byte"
  | notUtf8 => "stream did not contain valid UTF-8"

/-! ## Names -/

/-- The parts of a name between slashes. -/
def nameParts (name : String) : List String := (name.toList.splitOn '/').map String.ofList

/-- Whether a part of a name leads somewhere else. -/
def isStep (part : String) : Bool := part ≠ "" ∧ part ≠ "."

/-- The step to the root of the system, with which a name may begin. -/
def rootStep : String := "/"

/-- Where a name begins: at the root of the system or in the working directory. -/
def startOf (name : String) : List String := if name.startsWith "/" then [rootStep] else []

/-- The steps of a name. -/
def nameSteps (name : String) : List String := startOf name ++ (nameParts name).filter isStep

/-- The last part of a name. -/
def fileName (name : String) : String := ((nameParts name).filter isStep).getLast?.getD ""

/-- What follows the last dot of a file's name; a name whose only dot is its first
character has no extension. -/
def fileExtension (name : String) : Option String :=
  let parts := (fileName name).toList.splitOn '.'
  match parts with
  | [_] | [[], _] => none
  | parts => parts.getLast?.map String.ofList

/-- The directory above another. The root of the system is above itself. -/
def above (here : List String) : List String :=
  if here = [rootStep] then here
  else if here.isEmpty || here.getLast? = some ".." then here ++ [".."]
  else here.dropLast

/-- How many bytes a part of a name may have. -/
def partLimit : Nat := 255

/-- How many bytes a name may have. -/
def nameLimit : Nat := 4095

/-! ## Resolution -/

/-- A place in the tree. -/
inductive Place where
  | directory
  | file (content : FileContent)
  deriving Inhabited

namespace Files

/-- What stands at the end of a list of steps, if anything does. The working directory, those
above it and the root of the system are always there. -/
def at? (files : Files) (steps : List String) : Option Place :=
  if steps = [rootStep] || steps.all (· = "..") then some .directory
  else
    match files.entries.find? fun entry => nameSteps entry.1 = steps with
    | some (_, .directory) => some .directory
    | some (_, content) => some (.file content)
    | none =>
      if files.entries.any fun entry => steps.isPrefixOf (nameSteps entry.1) then some .directory
      else none

/-- Takes the parts of a name one after the other from the directory `here`. -/
def walk (files : Files) (here : List String) : List String → Except FileError Place
  | [] => .ok .directory
  | part :: rest =>
    if !isStep part then walk files here rest
    else if part = ".." then walk files (above here) rest
    else if part.utf8ByteSize > partLimit then .error .nameTooLong
    else
      match files.at? (here ++ [part]) with
      | none => .error .notFound
      | some .directory => walk files (here ++ [part]) rest
      | some (.file content) => if rest.isEmpty then .ok (.file content) else .error .notDirectory

/-- What stands at a name. An empty name leads nowhere. -/
def resolve (files : Files) (name : String) : Except FileError Place :=
  if '\x00' ∈ name.toList then .error .nameBroken
  else if name.isEmpty then .error .notFound
  else if name.utf8ByteSize > nameLimit then .error .nameTooLong
  else files.walk (startOf name) (nameParts name)

/-- Whether anything stands at a name. -/
def «exists» (files : Files) (name : String) : Bool :=
  match files.resolve name with
  | .ok _ => true
  | .error _ => false

/-- The text of a file. -/
def readText (files : Files) (name : String) : Except FileError String := do
  match ← files.resolve name with
  | .directory | .file .directory => .error .isDirectory
  | .file (.database _) => .error .notUtf8
  | .file (.bytes bytes) =>
    match Text.ofUtf8? bytes with
    | some text => return text
    | none => .error .notUtf8

end Files

end DottedQuery
