/-
# DottedQuery.Settings.Basic -- settings and where they are found

Settings say in which dialect statements are written, how tables are joined, how labels are
made, and where the database and the catalog lie. They are written in TOML; what is left
out has a default.
-/
import DottedQuery.Document.Decode
import DottedQuery.Document.Toml.Read
import DottedQuery.Files
import DottedQuery.Settings.Expansion
import DottedQuery.Sql.Dialect
import DottedQuery.Sql.Select

namespace DottedQuery

open Document (Decoder)

/-! ## Settings -/

/-- How statements are written. -/
structure SqlSettings where
  dialect : Sql.Dialect := .sqlite
  joinKind : Sql.JoinKind := .inner
  deriving DecidableEq, Repr

/-- How labels are made. -/
structure LabelSettings where
  /-- Whether a label leaves out a trailing `_id`. -/
  stripIdSuffix : Bool := true
  deriving DecidableEq, Repr

/-- Where database and catalog lie. Both may mention variables of the environment. -/
structure StorageSettings where
  database : Option String := none
  catalog : Option String := none
  deriving DecidableEq, Repr

/-- All settings. -/
structure Settings where
  sql : SqlSettings := {}
  labels : LabelSettings := {}
  storage : StorageSettings := {}
  deriving DecidableEq, Repr

/-- Why settings cannot be had. -/
inductive SettingsError where
  | fileNotFound (name : String)
  | unreadable (cause : FileError)
  | document (cause : Document.Error)
  | missingVariable (name : String)

/-- Why the settings cannot be had. -/
def SettingsError.message : SettingsError → String
  | fileNotFound name => "Config file not found: " ++ name
  | unreadable cause => "Failed to read config file: " ++ cause.message
  | document cause => "Failed to parse config file: " ++ cause.describe .toml
  | missingVariable name => "Missing environment variable: " ++ name

/-! ## Reading -/

/-- The settings of statements. -/
def SqlSettings.decode : Decoder SqlSettings := fun format node => do
  let fill (name : String) (node : Document.Node) (slots : SqlSettings) :
      Except Document.Error SqlSettings := do
    if name = "dialect" then
      return { slots with dialect := ← Document.variant Sql.Dialect.named format node }
    else return { slots with joinKind := ← Document.variant Sql.JoinKind.named format node }
  return (← Document.struct "SqlSettings" ["dialect", "join_type"] {} fill format node).slots

/-- The settings of labels. -/
def LabelSettings.decode : Decoder LabelSettings := fun format node => do
  let fill (_ : String) (node : Document.Node) (_ : LabelSettings) :
      Except Document.Error LabelSettings := do
    return { stripIdSuffix := ← Document.truth format node }
  return (← Document.struct "LabelSettings" ["strip_id_suffix"] {} fill format node).slots

/-- The settings of storage. -/
def StorageSettings.decode : Decoder StorageSettings := fun format node => do
  let fill (name : String) (node : Document.Node) (slots : StorageSettings) :
      Except Document.Error StorageSettings := do
    let path ← Document.optional Document.text format node
    if name = "database" then return { slots with database := path }
    else return { slots with catalog := path }
  return (← Document.struct "StorageSettings" ["database", "catalog"] {} fill format node).slots

namespace Settings

/-- All settings. -/
def decode : Decoder Settings := fun format node => do
  let fill (name : String) (node : Document.Node) (slots : Settings) :
      Except Document.Error Settings := do
    if name = "sql" then return { slots with sql := ← SqlSettings.decode format node }
    else if name = "labels" then return { slots with labels := ← LabelSettings.decode format node }
    else return { slots with storage := ← StorageSettings.decode format node }
  return (← Document.struct "Settings" ["sql", "labels", "storage"] {} fill format node).slots

/-- Settings written in TOML. -/
def ofToml (text : String) : Except SettingsError Settings :=
  ((Document.Toml.read text).decode decode).mapError .document

/-- The settings in a file, which has to be there. -/
def ofFile (files : Files) (name : String) : Except SettingsError Settings := do
  if !files.exists name then .error (.fileNotFound name)
  else ofToml (← (files.readText name).mapError .unreadable)

/-! ## Finding -/

/-- The variable that may name the file with the settings. -/
def fileVariable : String := "RADHOC_CONFIG"

/-- The file with the settings in a working directory. -/
def localFile : String := "radhoc.toml"

/-- The settings from the first place that has any: the file that the environment names,
the file in the working directory, the user's own file. The first of these has to be there
if it is named. -/
def find (files : Files) (environment : Environment) (userFile : String) :
    Except SettingsError Settings :=
  match environment fileVariable with
  | some name => ofFile files name
  | none =>
    if files.exists localFile then ofFile files localFile
    else if files.exists userFile then ofFile files userFile
    else .ok {}

end Settings

/-! ## Paths -/

namespace StorageSettings

/-- A path with the values of its variables. -/
def expandPath (environment : Environment) (path : Option String) :
    Except SettingsError (Option String) :=
  match path with
  | none => .ok none
  | some path => do
    return some (← (expandVariables environment path).mapError .missingVariable)

/-- Where the database lies. -/
def databasePath (s : StorageSettings) (environment : Environment) :
    Except SettingsError (Option String) :=
  expandPath environment s.database

/-- Where the catalog lies. -/
def catalogPath (s : StorageSettings) (environment : Environment) :
    Except SettingsError (Option String) :=
  expandPath environment s.catalog

end StorageSettings

end DottedQuery
