/-
# DottedQuery.Proofs.Catalog.ForeignKeys -- when foreign keys become relationships

A database finds the table and the columns that a foreign key names whatever their case. Introspection
compares names as they are spelled, so a key that the database has no trouble with may lead nowhere: on
the side of the child the catalog is refused, and on the side of the parent nothing is offered to any
entity. If all keys are spelled as the tables and listed columns that they refer to, introspection
succeeds, and each key gives its relationships on both sides unless another key gives one of the same
name first (`relationships_of_references`).
-/
import DottedQuery.Proofs.Catalog.Introspected

namespace DottedQuery.Catalog

open Store (Column Database ForeignKey Table)

variable {db : Database} {c : Catalog} {key : KeyColumn} {side : Cardinality} {t : Table}
  {tables : List Table} {shows : Table → List Column}

/-! ## References -/

/-- A foreign key of a table names the columns that it refers to, as many as it has itself, and its own
columns are shown in the table as the others are in the parent. `same` tells which names are the same. -/
structure Refers (same : String → String → Prop) (tables : List Table) (shows : Table → List Column)
    (t : Table) (key : ForeignKey) : Prop where
  own : ∀ name ∈ key.columns, ∃ column ∈ shows t, same column.name name
  parent : ∃ parent ∈ tables, same parent.name key.parent ∧ ∃ names, key.parentColumns = some names ∧
    names.length = key.columns.length ∧ ∀ name ∈ names, ∃ column ∈ shows parent, same column.name name

/-- The foreign keys of all tables refer to something. -/
def Consistent (same : String → String → Prop) (tables : List Table) (shows : Table → List Column) :
    Prop :=
  ∀ t ∈ tables, ∀ key ∈ t.foreignKeys, Refers same tables shows t key

/-- A key that names what it refers to exactly is spelled as it should be. -/
theorem spelled_of_refers {foreign : ForeignKey} (ht : t ∈ tables)
    (h : Refers Eq tables Table.listed t foreign) {i : Nat} {column : String}
    (hcolumn : foreign.columns[i]? = some column) : (keyColumn t foreign i column).Spelled tables := by
  obtain ⟨parent, hparent, hname, names, hnames, hlength, hall⟩ := h.parent
  have hi : i < names.length := by
    rw [hlength]
    exact (List.getElem?_eq_some_iff.mp hcolumn).1
  have hparentColumn : (keyColumn t foreign i column).parentColumn = names[i] := by
    show (foreign.parentColumns.bind (·[i]?)).getD "id" = _
    rw [hnames, Option.bind_some, List.getElem?_eq_getElem hi, Option.getD_some]
  constructor
  · obtain ⟨own, hown, rfl⟩ := h.own column (List.mem_of_getElem? hcolumn)
    exact ⟨t, ht, rfl, List.mem_map_of_mem hown⟩
  · obtain ⟨other, hother, heq⟩ := hall names[i] (List.getElem_mem hi)
    rw [hparentColumn, ← heq]
    exact ⟨parent, hparent, hname, List.mem_map_of_mem hother⟩

/-- If all keys of the user's tables name what they refer to exactly, they are spelled as they should
be. -/
theorem spelled_of_consistent (h : Consistent Eq (userTables db) Table.listed) :
    ∀ key ∈ keysOf db, key.Spelled (userTables db) := by
  intro key hkey
  obtain ⟨t, ht, hkey⟩ := mem_keysOf.mp hkey
  obtain ⟨foreign, hforeign, i, column, hcolumn, rfl⟩ := mem_keyColumns.mp hkey
  exact spelled_of_refers ht (h t ht foreign hforeign) hcolumn

/-! ## Relationships -/

/-- A key is the first that offers its owner a relationship of its name. -/
def KeyColumn.Unshadowed (db : Database) (side : Cardinality) (key : KeyColumn) : Prop :=
  ∃ t ∈ userTables db, firstOffer? (keysOf db) t (key.nameOf side) = some (side, key)

/-- In a catalog from a database, the owner of a key that is spelled as it should be has a relationship
of the name that the key offers. It is that of the key unless another one came first. -/
theorem exists_relationship_of_spelled (hnames : ((userTables db).map (·.name)).Nodup)
    (hkey : key ∈ keysOf db) (hspelled : key.Spelled (userTables db)) (side : Cardinality) :
    ∃ r, (introspected db).relationship? (key.owner side) (key.nameOf side) = some r ∧
      (key.Unshadowed db side → r = key.relationship side) := by
  obtain ⟨⟨t, ht, hname, -⟩, -⟩ := (KeyColumn.spelled_iff side).mp hspelled
  obtain ⟨offer, hfirst⟩ := exists_firstOffer? (mem_offers.mpr ⟨hkey, hname.symm⟩)
  refine ⟨offer.2.relationship offer.1, ?_, ?_⟩
  · rw [← hname, relationship?, entity?_introspected hnames ht, Option.bind_some,
      relationship?_entityOfTable, hfirst, Option.map_some]
  · rintro ⟨t', ht', hfirst'⟩
    have howner := (mem_of_firstOffer? hfirst').2
    obtain rfl : t' = t := List.inj_on_of_nodup_map hnames ht' ht (howner.symm.trans hname.symm)
    rw [hfirst] at hfirst'
    rw [Option.some.inj hfirst']

/-- A database with distinct names has a catalog exactly if every key that is the first to offer a
relationship is spelled as the tables and columns that it is about. If every foreign key of a user's
table names a user's table and listed columns exactly, there is a catalog, and in it each key has given
its relationships on both sides, unless others of the same name came first. -/
theorem relationships_of_references (hdb : db.Distinct) :
    ((∃ c, introspect db = .ok c) ↔
      ∀ (key : KeyColumn) side, key.Unshadowed db side → key.Spelled (userTables db)) ∧
      (Consistent Eq (userTables db) Table.listed → ∃ c, introspect db = .ok c ∧
        ∀ key ∈ keysOf db, ∀ side, ∃ r, c.relationship? (key.owner side) (key.nameOf side) = some r ∧
          (key.Unshadowed db side → r = key.relationship side)) := by
  have hnames := nodup_userTables hdb.names
  have hsuccess : (∃ c, introspect db = .ok c) ↔
      ∀ (key : KeyColumn) side, key.Unshadowed db side → key.Spelled (userTables db) := by
    constructor
    · rintro ⟨c, hc⟩ key side ⟨t, ht, hfirst⟩
      obtain ⟨-, -, hspelled⟩ := introspect_eq_ok_iff.mp hc
      exact hspelled t ht _ side key hfirst
    · intro hspelled
      refine ⟨introspected db, introspect_eq_ok_iff.mpr ⟨rfl, hnames, fun t ht name side key hfirst => ?_⟩⟩
      rw [← nameOf_of_firstOffer? hfirst] at hfirst
      exact hspelled key side ⟨t, ht, hfirst⟩
  refine ⟨hsuccess, fun hkeys => ?_⟩
  have hspelled := spelled_of_consistent hkeys
  obtain ⟨c, hc⟩ := hsuccess.mpr fun key side ⟨t, _, hfirst⟩ =>
    hspelled key (mem_of_firstOffer? hfirst).1
  obtain ⟨rfl, -, -⟩ := introspect_eq_ok_iff.mp hc
  exact ⟨_, hc, fun key hkey side =>
    exists_relationship_of_spelled hnames hkey (hspelled key hkey) side⟩

namespace Sleeves

def albums : Table := { name := "albums", columns := [{ name := "id", declared := "INTEGER" }] }

/-- Tracks with the album that they are on, whose table goes by some name. -/
def tracks (parent : String) : Table where
  name := "tracks"
  columns := [{ name := "id", declared := "INTEGER" }, { name := "album_id", declared := "INTEGER" }]
  foreignKeys := [⟨["album_id"], parent, some ["id"]⟩]

def database (parent : String) : Database where
  tables := [albums, tracks parent]

theorem userTables_database (parent : String) : userTables (database parent) = [albums, tracks parent] := by
  refine userTables_of_sorted ?_ (List.pairwise_pair.mpr ?_)
  · show ∀ t ∈ [albums, tracks parent], isSystemTable t.name = false
    simp only [List.forall_mem_cons, List.not_mem_nil, false_implies, implies_true, and_true]
    show isSystemTable "albums" = false ∧ isSystemTable "tracks" = false
    decide
  · show "albums" ≤ "tracks"
    decide

/-- Where the key spells its parent as the table, both have a relationship. -/
theorem relationships_of_references_albums : ∃ c, introspect (database "albums") = .ok c ∧
    ∀ key ∈ keysOf (database "albums"), ∀ side, ∃ r,
      c.relationship? (key.owner side) (key.nameOf side) = some r := by
  have hkeys : Consistent Eq (userTables (database "albums")) Table.listed := by
    rw [userTables_database]
    intro t ht foreign hforeign
    obtain rfl | rfl : t = albums ∨ t = tracks "albums" := by simpa using ht
    · exact absurd hforeign List.not_mem_nil
    · obtain rfl := List.mem_singleton.mp hforeign
      refine ⟨?_, albums, List.mem_cons_self, rfl, ["id"], rfl, rfl, ?_⟩
      · decide
      · decide
  have hdb : (database "albums").Distinct := by decide
  obtain ⟨-, hconsistent⟩ := relationships_of_references hdb
  obtain ⟨c, hc, hall⟩ := hconsistent hkeys
  refine ⟨c, hc, fun key hkey side => ?_⟩
  obtain ⟨r, hr, -⟩ := hall key hkey side
  exact ⟨r, hr⟩

/-- The key leads to the table of albums whatever the case, but there is no catalog. -/
theorem introspect_capital : (database "Albums").Distinct ∧
    Consistent (fun name other => Text.sameIgnoringCase name other = true) (database "Albums").tables
      (·.columns) ∧
    introspect (database "Albums") = .error (.unknownTarget "tracks" "album" "Albums") := by
  refine ⟨by decide, ?_, ?_⟩
  · intro t ht foreign hforeign
    obtain rfl | rfl : t = albums ∨ t = tracks "Albums" := by
      simpa [database] using ht
    · exact absurd hforeign List.not_mem_nil
    · obtain rfl := List.mem_singleton.mp hforeign
      refine ⟨?_, albums, List.mem_cons_self, ?_, ["id"], rfl, rfl, ?_⟩
      · decide
      · decide
      · decide
  · rw [introspect, entitiesOfDatabase, userTables_database]
    rfl

end Sleeves

end DottedQuery.Catalog
