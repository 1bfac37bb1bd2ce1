/-
# DottedQuery.CommandLine.Needs -- what a command looks at

A command is carried out on what is known of its surroundings. Which files and variables it
looks at depends in part on what stands in them: a variable may name the settings file, the
settings may mention variables, and these may name further files. `needs` lists what an
invocation looks at as far as the surroundings show it; when what it lists is known, it may
list more.
-/
import DottedQuery.CommandLine.Run

namespace DottedQuery.CommandLine

/-- Files and variables by name. -/
structure Needs where
  files : List String
  environment : List String

/-- The variables that a path mentions. -/
def variablesIn (path : String) : List String :=
  (Fragment.ofChars path.toList).filterMap fun fragment =>
    match fragment with
    | .reference name => some name
    | .literal _ => none

/-- The paths in the settings. -/
def pathsIn (settings : Settings) : List String :=
  settings.storage.database.toList ++ settings.storage.catalog.toList

/-- The files that a command names. -/
def Command.files : Command → List String
  | .compile spec catalog database _ => spec :: (catalog.toList ++ database.toList)
  | .run spec database catalog _ => spec :: (database.toList ++ catalog.toList)

/-- A list of steps as a name. -/
def nameOf (steps : List String) : String :=
  match steps with
  | [] => "."
  | first :: rest =>
    if first = rootStep then rootStep ++ "/".intercalate rest else "/".intercalate steps

/-- The places that a name leads through, up to the one it names. -/
def placesAlong (name : String) : List String :=
  let parts := (nameParts name).filter isStep
  (List.range (parts.length + 1)).map fun n =>
    nameOf <| (parts.take n).foldl
      (fun here part => if part = ".." then above here else here ++ [part]) (startOf name)

/-- The paths that a name may stand for: itself, and as the name of a database what it
spells. -/
def pathsOf (name : String) : List String :=
  name ::
    match Store.Location.ofName? name with
    | some l => l.path :: l.pattern.toList
    | none => []

/-- What an invocation looks at. -/
def Invocation.needs (s : Surroundings) (i : Invocation) : Needs :=
  let paths :=
    match s.settings i.config with
    | .ok settings => pathsIn settings
    | .error _ => []
  let expanded := paths.filterMap fun path => (expandVariables s.environment path).toOption
  let named := (s.environment Settings.fileVariable).toList
  let files :=
    i.config.toList ++ named ++ [Settings.localFile, s.userFile] ++ i.command.files ++ expanded
  ⟨(files.flatMap pathsOf).flatMap placesAlong, Settings.fileVariable :: paths.flatMap variablesIn⟩

/-- How often more can come to light: the variable that names the settings, the settings,
the variables they mention, the files that these name. -/
def rounds : Nat := 4

end DottedQuery.CommandLine
