/-
# DottedQuery.CommandLine.Run -- carrying out a command

`compile` prints a statement and, as comments below it, its operands; `run` prints the
result of a query as JSON. Options win over settings. Everything that a command can see is
given to it: the files, the variables of the environment, and the place of the user's own
settings.
-/
import DottedQuery.Catalog.Introspection
import DottedQuery.Catalog.Reading
import DottedQuery.CommandLine.Request
import DottedQuery.Engine
import DottedQuery.Settings.Basic
import DottedQuery.Spec.Reading
import DottedQuery.Sql.Statement
import DottedQuery.Store.Arrangement
import DottedQuery.Store.Opening

namespace DottedQuery.CommandLine

/-! ## Failures -/

/-- Why a command fails. -/
inductive Failure where
  /-- The settings cannot be had. -/
  | settings (cause : SettingsError)
  /-- A path in the settings cannot be expanded. -/
  | path (cause : SettingsError)
  | noDatabase
  | spec (cause : SpecError)
  | catalog (cause : CatalogError)
  | plan (cause : PlanError)
  | storage (cause : Store.StoreError)
  | width (cause : WidthError)

/-- The line that tells why a command fails. -/
def Failure.message : Failure → String
  | settings cause => "Error loading settings: " ++ cause.message
  | path cause => "Error: " ++ cause.message
  | noDatabase => "Error: No database given (use --database or [storage] database)"
  | spec cause => "Error: " ++ cause.message
  | catalog cause => "Error: " ++ cause.message
  | plan cause => "Error: " ++ cause.message
  | storage cause => "Error: " ++ cause.message
  | width cause => "Error: " ++ cause.message

/-- A failure to run a query. -/
def Failure.ofRun : RunError Store.StoreError → Failure
  | .plan cause => plan cause
  | .storage cause => storage cause
  | .width cause => width cause

/-! ## Surroundings -/

/-- What a command can see. -/
structure Surroundings where
  files : Files
  environment : Environment
  /-- The user's own settings file. -/
  userFile : String

namespace Surroundings

variable (s : Surroundings)

/-- The settings: from the file that the command line names, or else from the usual
places. -/
def settings (config : Option String) : Except Failure Settings :=
  (match config with
    | some name => Settings.ofFile s.files name
    | none => Settings.find s.files s.environment s.userFile).mapError .settings

/-- The file of the catalog: the one on the command line, or else the one in the settings,
if there is any. -/
def catalogPath (settings : Settings) (flag : Option String) : Except Failure (Option String) :=
  match flag with
  | some name => .ok (some name)
  | none => (settings.storage.catalogPath s.environment).mapError .path

/-- The file of the database: the one on the command line, or else the one in the
settings. -/
def databasePath (settings : Settings) (flag : Option String) : Except Failure String :=
  match flag with
  | some name => .ok name
  | none => do
    match ← (settings.storage.databasePath s.environment).mapError .path with
    | some name => return name
    | none => .error .noDatabase

/-- The specification in a file. -/
def spec (name : String) : Except Failure QuerySpec :=
  (QuerySpec.ofFile s.files name).mapError .spec

/-- The catalog in a file. -/
def catalogFile (name : String) : Except Failure Catalog :=
  (Catalog.ofFile s.files name).mapError .catalog

/-- Opens a database. -/
def openDatabase (name : String) : Except Failure Store.Opened :=
  (Store.openDatabase s.files name).mapError .storage

end Surroundings

/-- The catalog of an open database. -/
def catalogOf (db : Store.Opened) : Except Failure Catalog :=
  match db with
  | .ok db => (Catalog.introspect db).mapError fun cause => .catalog (.build cause)
  | .error _ => .error (.catalog .database)

/-! ## Commands -/

/-- The lines that show the operands of a statement, each under its placeholder. -/
def operandLines (dialect : Sql.Dialect) (number : Nat) : List Value → String
  | [] => ""
  | value :: rest =>
    "-- " ++ dialect.placeholder number ++ ": " ++ value.display ++ "\n" ++
      operandLines dialect (number + 1) rest

/-- A statement as `compile` prints it. -/
def listing (dialect : Sql.Dialect) (statement : Sql.Statement) : String :=
  statement.text ++ ";\n" ++ operandLines dialect 1 statement.operands

/-- The catalog that `compile` uses: from a file, or else from a database. -/
def compileCatalog (s : Surroundings) (settings : Settings) (catalog database : Option String) :
    Except Failure Catalog := do
  match ← s.catalogPath settings catalog with
  | some name => s.catalogFile name
  | none => catalogOf (← s.openDatabase (← s.databasePath settings database))

/-- What `compile` prints. -/
def compile (s : Surroundings) (settings : Settings) (spec : String)
    (catalog database : Option String) (dialect : Option Sql.Dialect) :
    Except Failure String := do
  let spec ← s.spec spec
  let catalog ← compileCatalog s settings catalog database
  let dialect := dialect.getD settings.sql.dialect
  let plan ← (catalog.plan spec).mapError .plan
  return listing dialect ((plan.select settings.sql.joinKind).statement dialect)

/-- What `run` prints. -/
def run (s : Surroundings) (settings : Settings) (spec : String)
    (database catalog : Option String) (raw : Bool) : Except Failure String := do
  let spec ← s.spec spec
  let db ← s.openDatabase (← s.databasePath settings database)
  let catalog ←
    match ← s.catalogPath settings catalog with
    | some name => s.catalogFile name
    | none => catalogOf db
  let engine : Engine Store.StoreError :=
    { catalog
      executor := fun plan => do (← db).executeArranged settings.sql.joinKind plan
      stripIdSuffix := settings.labels.stripIdSuffix }
  let json ←
    if raw then do pure (rawToJson (← (engine.runRaw spec).mapError .ofRun))
    else do pure (← (engine.run spec).mapError .ofRun).toJson
  return json.pretty 0 ++ "\n"

/-- Carries out a command: what it prints, or why it fails. -/
def Invocation.perform (s : Surroundings) (i : Invocation) : Except Failure String := do
  let settings ← s.settings i.config
  match i.command with
  | .compile spec catalog database dialect => compile s settings spec catalog database dialect
  | .run spec database catalog raw => run s settings spec database catalog raw

/-! ## Whole runs -/

/-- How a run of the program ends. -/
inductive Outcome where
  | printed (text : String)
  | failed (cause : Failure)
  | misused (cause : UsageError)

/-- The exit code of the program. -/
def Outcome.code : Outcome → Nat
  | printed _ => 0
  | failed _ => 1
  | misused _ => 2

/-- What the program writes to its output. -/
def Outcome.output : Outcome → String
  | printed text => text
  | failed _ | misused _ => ""

/-- The name and the version of the program. -/
def versionText : String := "radhoc 0.1.0\n"

/-- How the program is used. -/
def helpText : String :=
  "Usage:\n" ++
    "  radhoc compile SPEC [--catalog FILE] [--database FILE] [--dialect DIALECT]\n" ++
    "  radhoc run SPEC [--database FILE] [--catalog FILE] [--raw]\n" ++
    "Options: --config FILE, --help, --version\n"

/-- A run of the program on its arguments. -/
def outcome (s : Surroundings) (arguments : List String) : Outcome :=
  match Invocation.ofArguments arguments with
  | .error .help => .printed helpText
  | .error .version => .printed versionText
  | .error (.usage cause) => .misused cause
  | .ok invocation =>
    match invocation.perform s with
    | .ok text => .printed text
    | .error cause => .failed cause

end DottedQuery.CommandLine
