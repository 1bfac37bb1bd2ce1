/-
# DottedQuery.Store.BuiltIn -- tables that every database has

Some tables are there without being created, unless a table or a view of the name is. Most of
them tell a setting of the database system and have one row. Others tell what an argument asks
for, and have no rows, as a statement gives none.
-/
import DottedQuery.Store.Definition
import DottedQuery.Store.Relation

namespace DottedQuery.Store

/-! ## Tables -/

/-- A table that is not created. -/
structure BuiltInTable where
  name : String
  columns : List String
  /-- Columns that are seen only where they are named. -/
  hidden : List String := []
  rows : List Row := []
  /-- The key of the first row. -/
  start : Nat := 1

/-- The table as a relation. Hidden cells are null. -/
def BuiltInTable.relation (t : BuiltInTable) (encoding : TextEncoding) : Relation where
  columns := (t.columns ++ t.hidden).map fun name =>
    Column.spelledIn { name, declared := "" } encoding
  keyed := true
  hidden := t.hidden.length
  rows := t.rows.mapIdx fun i row =>
    row ++ t.hidden.map (fun _ => .null) ++ [.ofCount (t.start + i)]

/-! ## Settings -/

/-- What the name of a table begins with that tells a setting. -/
def settingStart : String := "pragma_"

/-- A hidden column for the name of a database. -/
def schemaArgument : List String := ["schema"]

/-- Hidden columns for what is asked for and the name of a database. -/
def ownerArguments : List String := "arg" :: schemaArgument

/-- A table that tells one value. -/
def settingTable (setting : String) (hidden : List String) (value : Cell) : BuiltInTable where
  name := settingStart ++ setting
  columns := [setting]
  hidden := hidden
  rows := [[value]]

/-- Settings that are off. -/
def settingsOff : List String :=
  ["analysis_limit", "application_id", "cell_size_check", "checkpoint_fullfsync",
   "count_changes", "defer_foreign_keys", "empty_result_callbacks", "foreign_keys",
   "freelist_count", "full_column_names", "fullfsync", "hard_heap_limit",
   "ignore_check_constraints", "legacy_alter_table", "query_only", "read_uncommitted",
   "recursive_triggers", "reverse_unordered_selects", "secure_delete", "soft_heap_limit",
   "temp_store", "threads", "user_version", "writable_schema"]

/-- Settings that are on. -/
def settingsOn : List String :=
  ["automatic_index", "data_version", "short_column_names", "trusted_schema"]

/-- Settings of each database in a connection. -/
def schemaSettings : List (String × Cell) :=
  [("auto_vacuum", .int 0), ("cache_size", .int (-2000)), ("cache_spill", .int 483),
   ("journal_mode", .ofString "memory"), ("journal_size_limit", .int (-1)),
   ("locking_mode", .ofString "normal"), ("max_page_count", .int 4294967294),
   ("page_size", .int 4096), ("synchronous", .int 2)]

/-- All settings, also those that no table tells. -/
def settingNames : List String :=
  ["analysis_limit", "application_id", "auto_vacuum", "automatic_index", "busy_timeout",
   "cache_size", "cache_spill", "case_sensitive_like", "cell_size_check",
   "checkpoint_fullfsync", "collation_list", "compile_options", "count_changes", "data_version",
   "database_list", "default_cache_size", "defer_foreign_keys", "empty_result_callbacks",
   "encoding", "foreign_key_check", "foreign_key_list", "foreign_keys", "freelist_count",
   "full_column_names", "fullfsync", "function_list", "hard_heap_limit",
   "ignore_check_constraints", "incremental_vacuum", "index_info", "index_list", "index_xinfo",
   "integrity_check", "journal_mode", "journal_size_limit", "legacy_alter_table",
   "locking_mode", "max_page_count", "mmap_size", "module_list", "optimize", "page_count",
   "page_size", "pragma_list", "query_only", "quick_check", "read_uncommitted",
   "recursive_triggers", "reverse_unordered_selects", "schema_version", "secure_delete",
   "short_column_names", "shrink_memory", "soft_heap_limit", "synchronous", "table_info",
   "table_list", "table_xinfo", "temp_store", "temp_store_directory", "threads",
   "trusted_schema", "user_version", "wal_autocheckpoint", "wal_checkpoint", "writable_schema"]

/-- The tables that tell one value, the same for every database. -/
def settingTables : List BuiltInTable :=
  settingsOff.map (settingTable · [] (.int 0)) ++ settingsOn.map (settingTable · [] (.int 1)) ++
    schemaSettings.map (fun (name, value) => settingTable name schemaArgument value) ++
    [settingTable "encoding" [] (.ofString "UTF-8"),
     settingTable "integrity_check" ownerArguments (.ofString "ok"),
     settingTable "quick_check" ownerArguments (.ofString "ok"),
     { name := settingStart ++ "busy_timeout", columns := ["timeout"], rows := [[.int 5000]] },
     { name := settingStart ++ "default_cache_size", columns := ["cache_size"],
       hidden := schemaArgument, rows := [[.int (-2000)]] }]

/-! ## Lists -/

/-- The tables that list what there is in every database. -/
def listTables : List BuiltInTable :=
  [{ name := settingStart ++ "collation_list", columns := ["seq", "name"]
     rows := [[.int 0, .ofString "RTRIM"], [.int 1, .ofString "NOCASE"],
       [.int 2, .ofString "BINARY"]] },
   { name := settingStart ++ "database_list", columns := ["seq", "name", "file"]
     rows := [[.int 0, .ofString "main", .ofString ""]] },
   { name := settingStart ++ "pragma_list", columns := ["name"]
     rows := settingNames.map fun name => [.ofString name] }]

/-- The columns of the tables that list the parts of a document. -/
def partColumns : List String :=
  ["key", "value", "type", "atom", "id", "parent", "fullkey", "path"]

/-- The tables that list what an argument asks for. -/
def answeringTables : List BuiltInTable :=
  [{ name := settingStart ++ "foreign_key_check", columns := ["table", "rowid", "parent", "fkid"]
     hidden := ownerArguments },
   { name := settingStart ++ "foreign_key_list"
     columns := ["id", "seq", "table", "from", "to", "on_update", "on_delete", "match"]
     hidden := ownerArguments },
   { name := settingStart ++ "index_info", columns := ["seqno", "cid", "name"]
     hidden := ownerArguments },
   { name := settingStart ++ "index_list"
     columns := ["seq", "name", "unique", "origin", "partial"], hidden := ownerArguments },
   { name := settingStart ++ "index_xinfo"
     columns := ["seqno", "cid", "name", "desc", "coll", "key"], hidden := ownerArguments },
   { name := settingStart ++ "optimize", columns := ["optimize"], hidden := ["arg"] },
   { name := settingStart ++ "table_info"
     columns := ["cid", "name", "type", "notnull", "dflt_value", "pk"]
     hidden := ownerArguments },
   { name := settingStart ++ "table_xinfo"
     columns := ["cid", "name", "type", "notnull", "dflt_value", "pk", "hidden"]
     hidden := ownerArguments },
   { name := "json_each", columns := partColumns, hidden := ["json", "root"], start := 0 },
   { name := "json_tree", columns := partColumns, hidden := ["json", "root"], start := 0 }]

/-! ## What a database tells of itself -/

namespace Database

/-- The cells of the list of tables that stand in one column. -/
def schemaCells (db : Database) (column : Nat) : List Cell :=
  db.schema.map (·.cells.getD column .null)

/-- How many pages there are, if every tree takes one. -/
def pageCount (db : Database) : Nat :=
  let root : Cell → Nat
    | .int n => n.toNatClampNeg
    | _ => 0
  (db.schemaCells 3).foldl (fun greatest cell => max greatest (root cell)) 0

/-- How many statements made the tables and the views: an index that a constraint needs comes
without one. -/
def changes (db : Database) : Nat :=
  ((db.schemaCells 4).filter fun cell => !(cell matches .null)).length

/-- What the list of tables and views tells of the table in an entry. -/
def tableEntry? (db : Database) (viewWidth : String → Nat) : Row → Option Row
  | [.text kind, .text name, _, _, .text definition] =>
    let flag (b : Bool) : Cell := .int (if b then 1 else 0)
    let entry (width : Nat) (unkeyed strict : Bool) : Row :=
      [.ofString "main", .text name, .text kind, .ofCount width, flag unkeyed, flag strict]
    let spelled := Text.ofUtf8Lossy name
    match db.table? spelled, db.view? spelled with
    | some t, _ =>
      let strict := (TableDefinition.ofText? (Text.ofUtf8Lossy definition)).any (·.strict)
      some (entry t.columns.length (!t.keyed) strict)
    | none, some _ => some (entry (viewWidth spelled) false false)
    | none, none => none
  | _ => none

/-- The list of tables and views as an entry. -/
def schemaEntry (owner name : String) : Row :=
  [.ofString owner, .ofString name, .ofString "table", .ofCount schemaColumns.length, .int 0,
    .int 0]

/-- The tables that list something of a database, whose views have so many columns. -/
def ownTables (db : Database) (viewWidth : String → Nat) : List BuiltInTable :=
  [settingTable "page_count" schemaArgument (.ofCount db.pageCount),
   settingTable "schema_version" schemaArgument (.ofCount db.changes),
   { name := settingStart ++ "table_list"
     columns := ["schema", "name", "type", "ncol", "wr", "strict"], hidden := ["arg"]
     rows := db.schema.reverse.filterMap (fun record => db.tableEntry? viewWidth record.cells) ++
       [schemaEntry "main" "sqlite_schema", schemaEntry "temp" "sqlite_temp_schema"] }]

/-- The table of this name that is there without being created. -/
def builtIn? (db : Database) (viewWidth : String → Nat) (name : String) : Option BuiltInTable :=
  (settingTables ++ listTables ++ answeringTables ++ db.ownTables viewWidth).find? fun t =>
    Text.sameIgnoringCase t.name name

end Database

end DottedQuery.Store
