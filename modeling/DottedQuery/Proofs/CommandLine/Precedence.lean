/-
# DottedQuery.Proofs.CommandLine.Precedence -- which catalog `compile` uses

Options win over settings, each over the setting of its own name. The catalog of `compile` may come from a
file or from a database, and there is an option and a setting for each of the two. A file is looked for
first, on the command line and then in the settings; only then comes the database. So a database on the
command line decides exactly where the settings name no file (`compile_of_database`): all else in them,
labels and their own database with the variables it mentions, has no part in what is printed. Where they
name a file, the database on the command line has none, and a variable that the name mentions has to be set.
-/
import DottedQuery.CommandLine.Run
import DottedQuery.Proofs.Success

namespace DottedQuery

/-! ## Files -/

namespace Files

variable {files : Files} {here parts : List String} {name text : String} {content : FileContent}

/-- What a file holds is what some entry holds. -/
theorem exists_entry_of_at? (h : files.at? here = some (.file content)) :
    ∃ entry ∈ files.entries, entry.2 = content := by
  unfold at? at h
  split at h
  · cases h
  split at h
  · cases h
  · rename_i found _ hfind
    cases h
    exact ⟨_, List.mem_of_find?_eq_some hfind, rfl⟩
  · split at h
    · cases h
    · cases h

theorem exists_entry_of_walk (h : files.walk here parts = .ok (.file content)) :
    ∃ entry ∈ files.entries, entry.2 = content := by
  induction parts generalizing here with
  | nil => cases h
  | cons part rest ih =>
    rw [walk] at h
    split at h
    · exact ih h
    split at h
    · exact ih h
    split at h
    · cases h
    split at h
    · cases h
    · exact ih h
    · rename_i found hfound
      split at h
      · cases h
        exact exists_entry_of_at? hfound
      · cases h

theorem exists_entry_of_resolve (h : files.resolve name = .ok (.file content)) :
    ∃ entry ∈ files.entries, entry.2 = content := by
  unfold resolve at h
  split at h
  · cases h
  split at h
  · cases h
  split at h
  · cases h
  · exact exists_entry_of_walk h

/-- A text that is read is that of some entry. -/
theorem exists_entry_of_readText (h : files.readText name = .ok text) :
    ∃ bytes, (∃ entry ∈ files.entries, entry.2 = .bytes bytes) ∧ Text.ofUtf8? bytes = some text := by
  obtain ⟨place, hplace, h⟩ := bind_eq_ok.mp h
  split at h
  · cases h
  · cases h
  · cases h
  · rename_i bytes
    refine ⟨bytes, exists_entry_of_resolve hplace, ?_⟩
    split at h
    · rename_i found hfound
      cases h
      exact hfound
    · cases h

end Files

namespace CommandLine

variable {s : Surroundings} {settings : Settings} {name path text : String}

/-! ## Where catalogs come from -/

/-- What `compile` prints with a catalog that is had from somewhere, or with none. -/
def compileFrom (s : Surroundings) (sql : SqlSettings) (spec : String) (source : Except Failure Catalog)
    (dialect : Option Sql.Dialect) : Except Failure String := do
  let spec ← s.spec spec
  let catalog ← source
  let plan ← (catalog.plan spec).mapError .plan
  let dialect := dialect.getD sql.dialect
  return listing dialect ((plan.select sql.joinKind).statement dialect)

/-- The catalog of the tables in a database. -/
def introspected (s : Surroundings) (database : String) : Except Failure Catalog := do
  catalogOf (← s.openDatabase database)

/-- The catalog in the file that settings name. -/
def configured (s : Surroundings) (path : String) : Except Failure Catalog := do
  s.catalogFile (← (expandVariables s.environment path).mapError fun name => .path (.missingVariable name))

/-- Settings that name no file for the catalog leave it to the database on the command line. -/
theorem compileCatalog_of_none (h : settings.storage.catalog = none) (s : Surroundings)
    (database : String) : compileCatalog s settings none (some database) = introspected s database := by
  have hpath : s.catalogPath settings none = .ok none := by
    rw [Surroundings.catalogPath, StorageSettings.catalogPath, h]
    rfl
  rw [compileCatalog, hpath]
  rfl

/-- Settings that name a file for the catalog leave nothing to the command line. -/
theorem compileCatalog_of_some (h : settings.storage.catalog = some path) (s : Surroundings)
    (database : Option String) : compileCatalog s settings none database = configured s path := by
  rw [compileCatalog, Surroundings.catalogPath, StorageSettings.catalogPath, h, StorageSettings.expandPath,
    configured]
  cases expandVariables s.environment path with
  | error name => rfl
  | ok name => rfl

theorem configured_ne_plan {cause : PlanError} : configured s path ≠ .error (.plan cause) := by
  intro h
  obtain h | ⟨name, -, h⟩ := bind_eq_error.mp h
  · obtain ⟨_, -, h⟩ := mapError_eq_error.mp h
    cases h
  · obtain ⟨_, -, h⟩ := mapError_eq_error.mp h
    cases h

/-! ## Where the settings win -/

/-- A specification that asks for no field. It is no catalog, in either format. -/
def blank : String := "table: t"

/-- No variable is set, and the only file has that specification. -/
def bare : Surroundings where
  files := ⟨[("query", .bytes (Text.toUtf8 blank))]⟩
  environment := fun _ => none
  userFile := ""

theorem readText_bare (h : bare.files.readText name = .ok text) : text = blank := by
  obtain ⟨bytes, ⟨entry, hentry, hbytes⟩, htext⟩ := Files.exists_entry_of_readText h
  rw [List.mem_singleton.mp hentry] at hbytes
  cases hbytes
  have hblank : Text.ofUtf8? (Text.toUtf8 blank) = some blank := by decide +kernel
  exact Option.some.inj (htext.symm.trans hblank)

/-- There is no catalog to be had from a file, whatever its name. -/
theorem configured_bare_ne_ok {catalog : Catalog} : configured bare path ≠ .ok catalog := by
  intro h
  obtain ⟨name, -, h⟩ := bind_eq_ok.mp h
  obtain ⟨text, htext, h⟩ := bind_eq_ok.mp (mapError_succeeds.mp h)
  rw [readText_bare (mapError_succeeds.mp htext)] at h
  have hjson : (Catalog.ofJson blank).toOption.isSome = false := by decide +kernel
  have htoml : (Catalog.ofToml blank).toOption.isSome = false := by decide +kernel
  split at h
  · rw [h] at hjson
    cases hjson
  · rw [h] at htoml
    cases htoml

/-- An empty database in memory has an empty catalog, and then it is the specification that is at fault. -/
theorem compileFrom_introspected_bare (sql : SqlSettings) (dialect : Option Sql.Dialect) :
    compileFrom bare sql "query" (introspected bare ":memory:") dialect = .error (.plan .noFields) := by
  have hread : (bare.spec "query").toOption.map (·.fields.isEmpty) = some true := by decide +kernel
  have hopened : (introspected bare ":memory:").toOption.isSome = true := by decide +kernel
  cases hspec : bare.spec "query" with
  | error cause =>
    rw [hspec] at hread
    cases hread
  | ok spec =>
    rw [hspec] at hread
    cases hsource : introspected bare ":memory:" with
    | error cause =>
      rw [hsource] at hopened
      cases hopened
    | ok catalog =>
      have hplan : catalog.plan spec = .error .noFields := if_pos (Option.some.inj hread)
      rw [compileFrom, hspec]
      show ((catalog.plan spec).mapError Failure.plan >>= fun plan => _) = _
      rw [hplan]
      rfl

/-- A file that the settings name is used in place of the database on the command line, even if there is no
such file. -/
theorem exists_compile_ne (h : settings.storage.catalog = some path) :
    ∃ s spec database dialect, compile s settings spec none (some database) dialect ≠
      compileFrom s settings.sql spec (introspected s database) dialect := by
  refine ⟨bare, "query", ":memory:", none, ?_⟩
  rw [compileFrom_introspected_bare]
  change compileFrom bare settings.sql "query" (compileCatalog bare settings none (some ":memory:")) none ≠ _
  rw [compileCatalog_of_some h]
  cases hsource : configured bare path with
  | ok catalog => exact absurd hsource configured_bare_ne_ok
  | error cause =>
    intro heq
    obtain heq | ⟨spec, -, heq⟩ := bind_eq_error.mp heq
    · obtain ⟨_, -, heq⟩ := mapError_eq_error.mp heq
      cases heq
    · cases heq
      exact configured_ne_plan hsource

/-- With a database on the command line and no catalog there, `compile` prints what comes of the database
exactly if the settings name no catalog; and if they do, it is what comes of that file. Of two settings
that write statements alike and name the same catalog, or none, it prints the same, whatever else they say. -/
theorem compile_of_database (settings : Settings) :
    ((∀ s spec database dialect, compile s settings spec none (some database) dialect =
        compileFrom s settings.sql spec (introspected s database) dialect) ↔
      settings.storage.catalog = none) ∧
    (∀ path, settings.storage.catalog = some path → ∀ s spec database dialect,
      compile s settings spec none database dialect =
        compileFrom s settings.sql spec (configured s path) dialect) ∧
    ∀ other : Settings, other.sql = settings.sql → other.storage.catalog = settings.storage.catalog →
      ∀ s spec database dialect, compile s other spec none (some database) dialect =
        compile s settings spec none (some database) dialect := by
  have hcompile (settings : Settings) (s : Surroundings) (spec : String) (database : Option String)
      (dialect : Option Sql.Dialect) : compile s settings spec none database dialect =
        compileFrom s settings.sql spec (compileCatalog s settings none database) dialect := rfl
  refine ⟨⟨fun hall => ?_, fun hnone s spec database dialect => ?_⟩,
    fun path hpath s spec database dialect => ?_, fun other hsql hcatalog s spec database dialect => ?_⟩
  · cases hcatalog : settings.storage.catalog with
    | none => rfl
    | some path =>
      obtain ⟨s, spec, database, dialect, hne⟩ := exists_compile_ne hcatalog
      exact absurd (hall s spec database dialect) hne
  · rw [hcompile, compileCatalog_of_none hnone]
  · rw [hcompile, compileCatalog_of_some hpath]
  · rw [hcompile, hcompile, hsql]
    cases hown : settings.storage.catalog with
    | none => rw [compileCatalog_of_none hown, compileCatalog_of_none (hcatalog.trans hown)]
    | some path => rw [compileCatalog_of_some hown, compileCatalog_of_some (hcatalog.trans hown)]

namespace Studio

/-- The songs of a studio. -/
def songs : Store.Table where
  name := "songs"
  columns := [⟨"title", "TEXT", .text, .binary, false, false⟩]

/-- A specification, a database with the table it asks for, and a catalog that has the same entity in
another table. -/
def surroundings : Surroundings where
  files := ⟨[("titles", .bytes (Text.toUtf8 "table: songs\nfields:\n  title:\n")),
    ("music.db", .database { tables := [songs] }),
    ("catalog.json", .bytes (Text.toUtf8
      "\x7b\"entities\": \x7b\"songs\": \x7b\"table\": \"tunes\", \"fields\": \x7b\"title\": \"text\"\x7d\x7d\x7d\x7d"))]⟩
  environment := fun _ => none
  userFile := ""

/-- Settings that name this catalog, or none. -/
def naming (catalog : Option String) : Settings := { storage := { catalog } }

/-- What is shown by `compile`, on its output or where it tells faults. -/
def shown (settings : Settings) : String :=
  match compile surroundings settings "titles" none (some "music.db") none with
  | .ok text => text
  | .error cause => cause.message

/-- Neither labels nor a variable that is not set matter where the settings name no catalog. -/
theorem compile_of_database_studio :
    compile surroundings { labels := ⟨false⟩, storage := { database := some "$STUDIO/music.db" } } "titles"
        none (some "music.db") none =
      compileFrom surroundings {} "titles" (introspected surroundings "music.db") none := by
  obtain ⟨hiff, -, hother⟩ := compile_of_database {}
  rw [hother { labels := ⟨false⟩, storage := { database := some "$STUDIO/music.db" } } rfl rfl]
  exact hiff.mpr rfl surroundings "titles" "music.db" none

/-- A catalog in the settings, and a variable that it mentions, change what comes of a database that the
command line names. -/
theorem shown_naming :
    shown (naming none) = "SELECT \"t0\".\"title\" FROM \"songs\" AS \"t0\";\n" ∧
      shown (naming (some "catalog.json")) = "SELECT \"t0\".\"title\" FROM \"tunes\" AS \"t0\";\n" ∧
      shown (naming (some "$STUDIO/catalog.json")) = "Error: Missing environment variable: STUDIO" := by
  refine ⟨?_, ?_, ?_⟩ <;> decide +kernel

end Studio

end CommandLine

end DottedQuery
