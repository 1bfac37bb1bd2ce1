/-
# DottedQuery.Proofs.Catalog.Coverage -- which tables and columns introspection covers

Names that start with `sqlite_` are reserved, and no table of a user has one. Introspection leaves out
more than that: it asks for names that fit the pattern `sqlite_%`, where the underscore is not itself
but any character (`isSystemTable_eq_fitsReserved`), and for listed columns only. So the catalog of a
database covers its tables exactly if none has a name that fits the pattern without being reserved, and
none has a column that follows from others (`covers_of_introspect`).
-/
import DottedQuery.Proofs.Catalog.Introspected
import DottedQuery.Store.Pattern

namespace DottedQuery

/-! ## Patterns that begin with a word -/

namespace Store.Cell

variable {word pattern s : List Char} {limit : Nat}

/-- The rest of a pattern that is a percent sign fits everything. -/
theorem fits_many (hlimit : s.length + 2 ≤ limit) : fits (likeStyle none) limit ['%'] s = true := by
  induction s generalizing limit with
  | nil =>
    obtain ⟨limit, rfl⟩ := Nat.exists_eq_add_of_le' hlimit
    simp [fits, likeStyle]
  | cons c s ih =>
    obtain ⟨limit, rfl⟩ := Nat.exists_eq_add_of_le' hlimit
    have hrest : fits (likeStyle none) (limit + (s.length + 2)) ['%'] s = true :=
      ih (Nat.le_add_left _ _)
    show (fits (likeStyle none) (limit + (s.length + 2)) [] (c :: s) ||
      fits (likeStyle none) (limit + (s.length + 2)) ['%'] s) = true
    rw [hrest, Bool.or_true]

/-- An underscore fits one character, whichever it is. -/
theorem fits_one : fits (likeStyle none) (limit + 1) ('_' :: pattern) s = true ↔
    1 ≤ s.length ∧ fits (likeStyle none) limit pattern (s.drop 1) = true := by
  cases s with
  | nil => simp [fits, likeStyle]
  | cons c s => simp [fits, likeStyle]

/-- Other characters fit themselves, in either case. -/
theorem fits_word (hword : ∀ c ∈ word, c ≠ '%' ∧ c ≠ '_') :
    fits (likeStyle none) (word.length + limit) (word ++ pattern) s = true ↔
      (s.take word.length).map Char.toLower = word.map Char.toLower ∧
        fits (likeStyle none) limit pattern (s.drop word.length) = true := by
  induction word generalizing s with
  | nil => simp
  | cons p word ih =>
    obtain ⟨⟨hmany, hone⟩, hword⟩ := List.forall_mem_cons.mp hword
    rw [List.length_cons, Nat.add_right_comm, List.cons_append]
    cases s with
    | nil => simp [fits, likeStyle, hmany]
    | cons c s =>
      have hstep : fits (likeStyle none) (word.length + limit + 1) (p :: (word ++ pattern)) (c :: s) =
          (decide (p.toLower = c.toLower) &&
            fits (likeStyle none) (word.length + limit) (word ++ pattern) s) := by
        simp [fits, fits.same, likeStyle, hmany, hone]
      rw [hstep, Bool.and_eq_true, ih hword, decide_eq_true_iff, List.take_succ_cons,
        List.drop_succ_cons, List.map_cons, List.map_cons, List.cons.injEq, and_assoc, eq_comm]

end Store.Cell

namespace Catalog

open Store (Column Database Table)

variable {db : Database} {c : Catalog} {t : Table} {name : String}

/-! ## Reserved names -/

/-- Whether a name is reserved for the database system. -/
def isReserved (name : String) : Bool :=
  Text.sameIgnoringCase (String.ofList (name.toList.take 7)) "sqlite_"

/-- Whether a name fits the pattern that is to keep the reserved names out. -/
def fitsReserved (name : String) : Bool :=
  let pattern := "sqlite_%".toList
  let s := name.toList
  Store.Cell.fits (Store.Cell.likeStyle none) (pattern.length + s.length + 1) pattern s

theorem sameIgnoringCase_ofList {s : List Char} {word : String} :
    Text.sameIgnoringCase (String.ofList s) word = true ↔
      s.map Char.toLower = word.toList.map Char.toLower := by
  rw [Text.sameIgnoringCase, beq_iff_eq, Text.asciiLower, Text.asciiLower, String.ofList_inj,
    String.toList_ofList]

theorem isSystemTable_iff : isSystemTable name = true ↔
    (name.toList.take 6).map Char.toLower = "sqlite".toList.map Char.toLower ∧ 6 < name.length := by
  rw [isSystemTable, Bool.and_eq_true, decide_eq_true_iff, sameIgnoringCase_ofList]

/-- The tables that introspection leaves out are those whose names fit the pattern. -/
theorem isSystemTable_eq_fitsReserved (name : String) : isSystemTable name = fitsReserved name := by
  have hpattern : "sqlite_%".toList = "sqlite".toList ++ ['_', '%'] := by decide
  have hword : ∀ c ∈ "sqlite".toList, c ≠ '%' ∧ c ≠ '_' := by simp
  have hname : name.toList.length = name.length := String.length_toList
  have hlimit : "sqlite_%".toList.length + name.toList.length + 1 =
      "sqlite".toList.length + (name.length + 2 + 1) := by
    show 8 + name.toList.length + 1 = 6 + _
    omega
  have hrest : ((name.toList.drop 6).drop 1).length + 2 ≤ name.length + 2 := by
    rw [List.length_drop, List.length_drop]
    omega
  have hfits : fitsReserved name = true ↔
      (name.toList.take 6).map Char.toLower = "sqlite".toList.map Char.toLower ∧ 6 < name.length := by
    show Store.Cell.fits _ ("sqlite_%".toList.length + name.toList.length + 1) _ _ = true ↔ _
    rw [hlimit, hpattern, Store.Cell.fits_word hword, Store.Cell.fits_one]
    show _ ∧ 1 ≤ (name.toList.drop 6).length ∧
      Store.Cell.fits _ _ _ ((name.toList.drop 6).drop 1) = true ↔ _
    rw [Store.Cell.fits_many hrest, List.length_drop]
    refine and_congr_right fun _ => ?_
    rw [and_iff_left rfl]
    omega
  rw [Bool.eq_iff_iff, hfits, isSystemTable_iff]

/-- Reserved names are left out. -/
theorem isSystemTable_of_isReserved (h : isReserved name = true) : isSystemTable name = true := by
  rw [isReserved, sameIgnoringCase_ofList] at h
  have hlength := congrArg List.length h
  rw [List.length_map, List.length_map, List.length_take, String.length_toList] at hlength
  have hseven : min 7 name.length = 7 := hlength
  have hword := congrArg (List.take 6) h
  rw [← List.map_take, List.take_take] at hword
  exact isSystemTable_iff.mpr ⟨hword, by omega⟩

/-! ## Coverage -/

/-- What a catalog may have of the tables of a database: for each table that is not left out one entity
of its name, with the columns that are shown as its fields, in their order, and nothing else. -/
def Covers (skips : String → Bool) (shows : Table → List Column) (db : Database) (c : Catalog) : Prop :=
  (c.entities.map fun e => (e.name, e.tableName, e.fields)).Perm
    ((db.tables.filter fun t => !skips t.name).map fun t => (t.name, t.name, (shows t).map fieldOf))

/-- Introspection covers the listed columns of the tables that it does not leave out. -/
theorem covers_introspected (hdb : db.Distinct) :
    (introspected db).Covers isSystemTable Table.listed db := by
  have hentities : (introspected db).entities.map (fun e => (e.name, e.tableName, e.fields)) =
      (userTables db).map fun t => (t.name, t.name, t.listed.map fieldOf) := by
    show ((userTables db).map (entityOfTable (keysOf db))).map _ = _
    rw [List.map_map]
    refine List.map_congr_left fun t ht => ?_
    have hlisted := hdb.listedNames (mem_userTables.mp ht).1
    rw [Function.comp_apply, name_entityOfTable, tableName_entityOfTable, fields_entityOfTable _ hlisted]
  rw [Covers, hentities]
  exact (userTables_perm db).map _

/-- All columns of a table are listed if as many fields are made of the listed ones. -/
theorem listed_eq_of_fields (h : t.listed.map fieldOf = t.columns.map fieldOf) :
    ∀ column ∈ t.columns, column.computed = false := by
  have hlength := congrArg List.length h
  rw [List.length_map, List.length_map, Table.listed, List.length_filter_eq_length_iff] at hlength
  intro column hcolumn
  have hlisted := hlength column hcolumn
  rwa [Bool.not_eq_true'] at hlisted

/-- A catalog that covers a table that is not reserved leaves none of its columns out. -/
theorem listed_of_covers (hdb : db.Distinct) (hcovers : c.Covers fitsReserved Table.listed db)
    (hall : c.Covers isReserved (·.columns) db) (ht : t ∈ db.tables) (hreserved : isReserved t.name = false) :
    fitsReserved t.name = false ∧ ∀ column ∈ t.columns, column.computed = false := by
  -- the entity that the table should have is one that there is
  have hmem : (t.name, t.name, t.columns.map fieldOf) ∈
      c.entities.map fun e => (e.name, e.tableName, e.fields) := by
    refine hall.mem_iff.mpr (List.mem_map.mpr ⟨t, List.mem_filter.mpr ⟨ht, ?_⟩, rfl⟩)
    rw [hreserved, Bool.not_false]
  obtain ⟨t', ht', hentity⟩ := List.mem_map.mp (hcovers.mem_iff.mp hmem)
  obtain ⟨hmem', hfits⟩ := List.mem_filter.mp ht'
  obtain ⟨hname, -, hfields⟩ : t'.name = t.name ∧ t'.name = t.name ∧
      t'.listed.map fieldOf = t.columns.map fieldOf := by simpa using hentity
  obtain rfl : t' = t := List.inj_on_of_nodup_map hdb.names hmem' ht hname
  rw [Bool.not_eq_true'] at hfits
  exact ⟨hfits, listed_eq_of_fields hfields⟩

/-- If the pattern keeps out just the reserved names and all columns are listed, they are covered. -/
theorem covers_of_listed (hcovers : c.Covers fitsReserved Table.listed db)
    (hall : ∀ t ∈ db.tables, isReserved t.name = false →
      fitsReserved t.name = false ∧ ∀ column ∈ t.columns, column.computed = false) :
    c.Covers isReserved (·.columns) db := by
  have htables : (db.tables.filter fun t => !fitsReserved t.name) =
      db.tables.filter fun t => !isReserved t.name := by
    refine List.filter_congr fun t ht => ?_
    cases hreserved : isReserved t.name with
    | true => rw [← isSystemTable_eq_fitsReserved, isSystemTable_of_isReserved hreserved]
    | false => rw [(hall t ht hreserved).1]
  rw [Covers, htables] at hcovers
  refine hcovers.trans (List.Perm.of_eq (List.map_congr_left fun t ht => ?_))
  obtain ⟨hmem, hreserved⟩ := List.mem_filter.mp ht
  rw [Bool.not_eq_true'] at hreserved
  have hlisted : t.listed = t.columns := by
    refine List.filter_eq_self.mpr fun column hcolumn => ?_
    rw [(hall t hmem hreserved).2 column hcolumn, Bool.not_false]
  rw [hlisted]

/-- The catalog of a database has one entity for each table whose name does not fit the pattern, with the
listed columns as fields. So it covers the tables with names that are not reserved exactly if none of
these names fits the pattern and all their columns are listed. -/
theorem covers_of_introspect (hdb : db.Distinct) (h : introspect db = .ok c) :
    (c.entities.map (·.name)).Nodup ∧ c.Covers fitsReserved Table.listed db ∧
      (c.Covers isReserved (·.columns) db ↔ ∀ t ∈ db.tables, isReserved t.name = false →
        fitsReserved t.name = false ∧ ∀ column ∈ t.columns, column.computed = false) := by
  obtain ⟨rfl, hnames, -⟩ := introspect_eq_ok_iff.mp h
  have hcovers : (introspected db).Covers fitsReserved Table.listed db := by
    rw [← funext isSystemTable_eq_fitsReserved]
    exact covers_introspected hdb
  refine ⟨names_introspected db ▸ hnames, hcovers, fun hall t ht => ?_, covers_of_listed hcovers⟩
  exact listed_of_covers hdb hcovers hall ht

namespace Shelf

/-- Books on shelves, and a table of the database system. -/
def database : Database where
  tables := [{ name := "shelves", columns := [{ name := "id", declared := "INTEGER" }] },
    { name := "SQLite_sequence", columns := [{ name := "name", declared := "" }] },
    { name := "books", columns := [{ name := "title", declared := "TEXT" },
      { name := "shelf_id", declared := "INTEGER" }],
      foreignKeys := [⟨["shelf_id"], "shelves", some ["id"]⟩] }]

/-- Both tables that are not reserved are covered. -/
theorem covers_of_introspect_shelf : ∃ c, introspect database = .ok c ∧
    c.Covers isReserved (·.columns) database := by
  have hdb : database.Distinct := by decide
  have hc : introspect database = .ok (introspected database) :=
    introspect_of_spelled hdb (by decide)
  obtain ⟨-, -, hcovers⟩ := covers_of_introspect hdb hc
  exact ⟨_, hc, hcovers.mpr (by decide)⟩

/-- A table whose name has no underscore where reserved names have one. -/
def overlooked : Database where
  tables := [{ name := "sqlitedata", columns := [{ name := "id", declared := "INTEGER" },
    { name := "title", declared := "TEXT" }] }]

/-- The name is not reserved, and yet the catalog is empty. -/
theorem introspect_overlooked : overlooked.Distinct ∧ isReserved "sqlitedata" = false ∧
    introspect overlooked = .ok ⟨[]⟩ ∧ ¬Covers isReserved (·.columns) overlooked ⟨[]⟩ := by
  have hsystem : isSystemTable "sqlitedata" = true := by decide
  have hreserved : isReserved "sqlitedata" = false := by decide
  have hnone : userTables overlooked = [] := by
    rw [userTables]
    simp [overlooked, hsystem]
  refine ⟨by decide, hreserved, ?_, fun hcovers => ?_⟩
  · rw [introspect, entitiesOfDatabase, hnone]
    rfl
  · have hlength := hcovers.length_eq
    simp [overlooked, hreserved] at hlength

end Shelf

end Catalog

end DottedQuery
