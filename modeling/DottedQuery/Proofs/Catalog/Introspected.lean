/-
# DottedQuery.Proofs.Catalog.Introspected -- what introspection makes of tables and keys

Introspection writes an entity in three rounds: the listed columns of its table, then relationships to
the parents of its own keys, then relationships to the tables whose keys refer to it. A relationship is
only written if its name is free, so the rounds can be told without writing anything: `offers` lists
what the keys have for a table, in the order in which names are given, and the entity has the first
offer of each name (`relationship?_entityOfTable`).

With that, success is a condition on keys (`introspect_eq_ok_iff`): every key with an offer that is the
first of its name has to be spelled as the tables and columns that it is about.
-/
import DottedQuery.Proofs.Catalog.Build
import DottedQuery.Proofs.Catalog.Making
import DottedQuery.Proofs.Dictionaries

namespace DottedQuery

open Store (Column Database ForeignKey Table)

/-- The columns of a table that are listed, which are all but those that follow from others. -/
def Store.Table.listed (t : Table) : List Column := t.columns.filter (!·.computed)

/-- The names of the listed columns. -/
def Store.Table.listedNames (t : Table) : List String := t.listed.map (·.name)

/-- A database in which neither two tables nor two columns of a table go by one name; ASCII case does
not count. -/
structure Store.Database.Distinct (db : Database) : Prop where
  tables : (db.tables.map fun t => Text.asciiLower t.name).Nodup
  columns : ∀ t ∈ db.tables, (t.columns.map fun column => Text.asciiLower column.name).Nodup

theorem Store.Database.distinct_iff {db : Database} : db.Distinct ↔
    (db.tables.map fun t => Text.asciiLower t.name).Nodup ∧
      ∀ t ∈ db.tables, (t.columns.map fun column => Text.asciiLower column.name).Nodup :=
  ⟨fun h => ⟨h.tables, h.columns⟩, fun ⟨tables, columns⟩ => ⟨tables, columns⟩⟩

instance (db : Database) : Decidable db.Distinct :=
  decidable_of_iff' _ Store.Database.distinct_iff

/-- Names that differ in more than case differ. -/
theorem nodup_of_asciiLower {α : Type} {name : α → String} {xs : List α}
    (h : (xs.map fun x => Text.asciiLower (name x)).Nodup) : (xs.map name).Nodup := by
  refine List.Nodup.of_map Text.asciiLower ?_
  rw [List.map_map]
  exact h

theorem Store.Database.Distinct.names {db : Database} (h : db.Distinct) :
    (db.tables.map (·.name)).Nodup := nodup_of_asciiLower h.tables

theorem Store.Database.Distinct.columnNames {db : Database} {t : Table} (h : db.Distinct)
    (ht : t ∈ db.tables) : (t.columns.map (·.name)).Nodup := nodup_of_asciiLower (h.columns t ht)

theorem Store.Database.Distinct.listedNames {db : Database} {t : Table} (h : db.Distinct)
    (ht : t ∈ db.tables) : t.listedNames.Nodup :=
  (h.columnNames ht).sublist (List.filter_sublist.map _)

/-- Each table is found under its name. -/
theorem Store.Database.Distinct.table?_eq {db : Database} {t : Table} (h : db.Distinct)
    (ht : t ∈ db.tables) : db.table? t.name = some t := by
  rw [Store.Database.table?, ← find?_of_nodup h.tables ht]
  exact congrArg (List.find? · db.tables) (funext fun other => by
    rw [Text.sameIgnoringCase, beq_eq_decide])

namespace Catalog

variable {db : Database} {c : Catalog} {keys : List KeyColumn} {key : KeyColumn} {t : Table}
  {name : String} {side : Cardinality}

/-! ## The tables of the user -/

theorem mem_userTables : t ∈ userTables db ↔ t ∈ db.tables ∧ isSystemTable t.name = false := by
  rw [userTables, List.mem_mergeSort, List.mem_filter, Bool.not_eq_true']

theorem userTables_perm (db : Database) :
    (userTables db).Perm (db.tables.filter fun t => !isSystemTable t.name) :=
  List.mergeSort_perm _ _

/-- Where all tables are the user's and in order, they are taken as they are. -/
theorem userTables_of_sorted (huser : ∀ t ∈ db.tables, isSystemTable t.name = false)
    (hsorted : db.tables.Pairwise fun t t' => ¬db.encoding.Before t'.name t.name) :
    userTables db = db.tables := by
  have hall : (db.tables.filter fun t => !isSystemTable t.name) = db.tables :=
    List.filter_eq_self.mpr fun t ht => by rw [huser t ht, Bool.not_false]
  rw [userTables, hall]
  exact List.mergeSort_of_pairwise (hsorted.imp decide_eq_true)

/-- Tables with different names stay so when some are left out and the others sorted. -/
theorem nodup_userTables (hnames : (db.tables.map (·.name)).Nodup) :
    ((userTables db).map (·.name)).Nodup := by
  rw [((userTables_perm db).map _).nodup_iff]
  exact hnames.sublist (List.filter_sublist.map _)

/-! ## Keys -/

/-- What a foreign key of a table refers to with one of its columns. -/
def keyColumn (t : Table) (key : ForeignKey) (i : Nat) (column : String) : KeyColumn :=
  ⟨t.name, column, key.parent, (key.parentColumns.bind (·[i]?)).getD "id"⟩

theorem mem_keyColumns : key ∈ keyColumns t ↔ ∃ foreign ∈ t.foreignKeys, ∃ i column,
    foreign.columns[i]? = some column ∧ key = keyColumn t foreign i column := by
  rw [keyColumns, List.mem_flatMap]
  refine exists_congr fun foreign => and_congr List.mem_reverse ?_
  rw [List.mem_mapIdx]
  constructor
  · rintro ⟨i, hi, rfl⟩
    exact ⟨i, _, List.getElem?_eq_getElem hi, rfl⟩
  · rintro ⟨i, column, hcolumn, rfl⟩
    obtain ⟨hi, rfl⟩ := List.getElem?_eq_some_iff.mp hcolumn
    exact ⟨i, hi, rfl⟩

/-- The columns of all keys of the user's tables. -/
def keysOf (db : Database) : List KeyColumn := (userTables db).flatMap keyColumns

theorem mem_keysOf : key ∈ keysOf db ↔ ∃ t ∈ userTables db, key ∈ keyColumns t := List.mem_flatMap

/-! ## Fields -/

/-- The field that a column becomes. -/
def fieldOf (column : Column) : Field := ⟨column.name, typeOfDeclared column.declared⟩

/-- The entity of a table before it has relationships. -/
def bareEntity (t : Table) : Entity :=
  (Entity.ofName t.name).addFields (t.listed.map fun column =>
    (column.name, typeOfDeclared column.declared))

theorem name_bareEntity (t : Table) : (bareEntity t).name = t.name := Entity.name_addFields _ _

theorem table_bareEntity (t : Table) : (bareEntity t).table = none := Entity.table_addFields _ _

theorem edges_bareEntity (t : Table) : (bareEntity t).edges = .empty := Entity.edges_addFields _ _

theorem fieldDefs_bareEntity (t : Table) :
    (bareEntity t).fieldDefs = .ofList (t.listed.map fun column => (column.name, fieldOf column)) := by
  rw [bareEntity, Entity.fieldDefs_addFields rfl, List.map_map]
  rfl

/-! ## Offers -/

/-- The entity that a key gives a relationship to: its child one to a single record, its parent one to
many. -/
def KeyColumn.owner (key : KeyColumn) : Cardinality → String
  | .one => key.child
  | .many => key.parent

/-- The name of the relationship. -/
def KeyColumn.nameOf (key : KeyColumn) : Cardinality → String
  | .one => parentName key
  | .many => key.child

/-- What the relationship joins. -/
def KeyColumn.link (key : KeyColumn) : Cardinality → Link
  | .one => ⟨key.parent, key.column, key.parentColumn, .one⟩
  | .many => ⟨key.child, key.parentColumn, key.column, .many⟩

/-- The relationship that a key gives to its owner on one side. -/
def KeyColumn.relationship (key : KeyColumn) (side : Cardinality) : Relationship :=
  { key.link side with source := key.owner side, name := key.nameOf side }

/-- The relationships that keys have for a table: those of its own keys, then those of the keys that
refer to it. -/
def offers (keys : List KeyColumn) (t : Table) : List (Cardinality × KeyColumn) :=
  [Cardinality.one, .many].flatMap fun side =>
    (keys.filter fun key => key.owner side = t.name).map (side, ·)

theorem mem_offers :
    (side, key) ∈ offers keys t ↔ key ∈ keys ∧ key.owner side = t.name := by
  cases side with
  | one => simp [offers]
  | many => simp [offers]

/-- The first offer of a name. -/
def firstOffer? (keys : List KeyColumn) (t : Table) (name : String) :
    Option (Cardinality × KeyColumn) :=
  (offers keys t).find? fun offer => offer.2.nameOf offer.1 = name

theorem nameOf_of_firstOffer? (h : firstOffer? keys t name = some (side, key)) :
    key.nameOf side = name := by
  simpa using List.find?_some h

theorem mem_of_firstOffer? (h : firstOffer? keys t name = some (side, key)) :
    key ∈ keys ∧ key.owner side = t.name :=
  mem_offers.mp (List.mem_of_find?_eq_some h)

/-- Some offer is the first of a name that is offered. -/
theorem exists_firstOffer? (h : (side, key) ∈ offers keys t) :
    ∃ offer, firstOffer? keys t (key.nameOf side) = some offer := by
  rw [← Option.isSome_iff_exists, firstOffer?, List.find?_isSome]
  exact ⟨(side, key), h, decide_eq_true rfl⟩

/-! ## Relationships -/

/-- Adds what is offered under names that are free. -/
def granted (e : Entity) (offered : List (String × Link)) : Entity :=
  offered.foldl (fun e offer => addFresh e offer.1 offer.2) e

theorem granted_cons (e : Entity) (offer : String × Link) (offered : List (String × Link)) :
    granted e (offer :: offered) = granted (addFresh e offer.1 offer.2) offered := rfl

theorem name_addFresh (e : Entity) (offered : String) (link : Link) :
    (addFresh e offered link).name = e.name := by
  rw [addFresh]
  split
  · rfl
  · rfl

/-- A name keeps the relationship that it has. If it has none, it gets that which is offered for it. -/
theorem relationship?_addFresh (e : Entity) (offered other : String) (link : Link) :
    (addFresh e offered link).relationship? other =
      (e.relationship? other).or
        (if offered = other then some (e.relationshipOf offered link) else none) := by
  rw [addFresh]
  by_cases htaken : (e.relationship? offered).isSome = true
  · obtain ⟨old, hold⟩ := Option.isSome_iff_exists.mp htaken
    rw [if_pos htaken]
    by_cases hname : offered = other
    · rw [← hname, hold, Option.some_or]
    · rw [if_neg hname, Option.or_none]
  · rw [if_neg htaken, Entity.relationship?_addLink]
    by_cases hname : offered = other
    · rw [← hname, if_pos rfl, if_pos rfl, Option.not_isSome_iff_eq_none.mp htaken, Option.none_or]
    · rw [if_neg (Ne.symm hname), if_neg hname, Option.or_none]

/-- A name keeps the relationship that it has, or gets the first that is offered. The name of the entity is
the same for all offers, so all of them have it as their source. -/
theorem relationship?_granted (e : Entity) (offered : List (String × Link)) (name : String) :
    (granted e offered).relationship? name = (e.relationship? name).or
      ((offered.find? fun offer => offer.1 = name).map fun offer => e.relationshipOf offer.1 offer.2) := by
  induction offered generalizing e with
  | nil => exact (Option.or_none).symm
  | cons offer offered ih =>
    have hsource : (addFresh e offer.1 offer.2).relationshipOf = e.relationshipOf := by
      funext name link
      rw [Entity.relationshipOf, Entity.relationshipOf, name_addFresh]
    rw [granted_cons, ih, hsource, relationship?_addFresh, Option.or_assoc, List.find?_cons]
    by_cases hname : offer.1 = name
    · rw [if_pos hname, decide_eq_true hname, Option.some_or, Option.map_some]
    · rw [if_neg hname, decide_eq_false hname, Option.none_or]

/-- What is not changed by any relationship that is added stays. -/
theorem granted_keeps {α : Type} {part : Entity → α}
    (hpart : ∀ e name link, part (e.addLink name link) = part e) (e : Entity)
    (offered : List (String × Link)) : part (granted e offered) = part e := by
  induction offered generalizing e with
  | nil => rfl
  | cons offer offered ih =>
    rw [granted_cons, ih, addFresh]
    split
    · rfl
    · exact hpart e offer.1 offer.2

/-- The entity of a table is what its columns make, with what the keys have for it. -/
theorem entityOfTable_eq (keys : List KeyColumn) (t : Table) :
    entityOfTable keys t = granted (bareEntity t)
      ((offers keys t).map fun offer => (offer.2.nameOf offer.1, offer.2.link offer.1)) := by
  rw [granted, List.foldl_map, offers, List.flatMap_cons, List.flatMap_singleton,
    List.foldl_append, List.foldl_map, List.foldl_map]
  rfl

theorem name_entityOfTable (keys : List KeyColumn) (t : Table) :
    (entityOfTable keys t).name = t.name := by
  rw [entityOfTable_eq, @granted_keeps _ Entity.name fun _ _ _ => rfl]
  exact name_bareEntity t

theorem tableName_entityOfTable (keys : List KeyColumn) (t : Table) :
    (entityOfTable keys t).tableName = t.name := by
  have htable : (entityOfTable keys t).table = none := by
    rw [entityOfTable_eq, @granted_keeps _ Entity.table fun _ _ _ => rfl]
    exact table_bareEntity t
  rw [Entity.tableName, htable, Option.getD_none, name_entityOfTable]

theorem fieldDefs_entityOfTable (keys : List KeyColumn) (t : Table) :
    (entityOfTable keys t).fieldDefs =
      .ofList (t.listed.map fun column => (column.name, fieldOf column)) := by
  rw [entityOfTable_eq, @granted_keeps _ Entity.fieldDefs fun _ _ _ => rfl]
  exact fieldDefs_bareEntity t

/-- Where listed columns have different names, they are the fields, in their order. -/
theorem fields_entityOfTable (keys : List KeyColumn) (h : t.listedNames.Nodup) :
    (entityOfTable keys t).fields = t.listed.map fieldOf := by
  have hdistinct : ((t.listed.map fun column => (column.name, fieldOf column)).map (·.1)).Nodup := by
    rw [List.map_map]
    exact h
  rw [Entity.fields, fieldDefs_entityOfTable, Dict.values, Dict.entries_ofList hdistinct,
    List.map_map]
  rfl

/-- A name is that of a field exactly if it is that of a listed column. -/
theorem exists_field?_entityOfTable_iff {column : String} :
    (∃ f, (entityOfTable keys t).field? column = some f) ↔ column ∈ t.listedNames := by
  simp only [Entity.field?, fieldDefs_entityOfTable, Dict.exists_get?_iff, Dict.keys_ofList,
    List.map_map, List.mem_eraseDups]
  rfl

/-- The entity of a table has the first offer of each name. -/
theorem relationship?_entityOfTable (keys : List KeyColumn) (t : Table) (name : String) :
    (entityOfTable keys t).relationship? name =
      (firstOffer? keys t name).map fun offer => offer.2.relationship offer.1 := by
  have hbare : (bareEntity t).relationship? name = none := by
    rw [Entity.relationship?, edges_bareEntity]
    rfl
  rw [entityOfTable_eq, relationship?_granted, hbare, Option.none_or, List.find?_map, Option.map_map]
  show (firstOffer? keys t name).map _ = _
  cases hfirst : firstOffer? keys t name with
  | none => rfl
  | some offer =>
    obtain ⟨side, key⟩ := offer
    have howner := (mem_of_firstOffer? hfirst).2
    show some ((bareEntity t).relationshipOf (key.nameOf side) (key.link side)) = _
    rw [Entity.relationshipOf, name_bareEntity, ← howner]
    rfl

theorem exists_offer_of_mem_relationships {r : Relationship}
    (h : r ∈ (entityOfTable keys t).relationships) :
    ∃ side key, firstOffer? keys t r.name = some (side, key) ∧ r = key.relationship side := by
  have hfound := Entity.relationship?_of_mem h
  rw [relationship?_entityOfTable] at hfound
  obtain ⟨⟨side, key⟩, hfirst, rfl⟩ := Option.map_eq_some_iff.mp hfound
  exact ⟨side, key, hfirst, rfl⟩

/-! ## Success -/

/-- A table has a column that is listed, both under just these names. -/
def Lists (tables : List Table) (table column : String) : Prop :=
  ∃ t ∈ tables, t.name = table ∧ column ∈ t.listedNames

/-- A key is spelled as the tables and columns that it is about. -/
structure KeyColumn.Spelled (tables : List Table) (key : KeyColumn) : Prop where
  child : Lists tables key.child key.column
  parent : Lists tables key.parent key.parentColumn

instance (tables : List Table) (table column : String) : Decidable (Lists tables table column) :=
  inferInstanceAs (Decidable (∃ t ∈ tables, t.name = table ∧ column ∈ t.listedNames))

instance (tables : List Table) (key : KeyColumn) : Decidable (key.Spelled tables) :=
  decidable_of_iff (Lists tables key.child key.column ∧ Lists tables key.parent key.parentColumn)
    ⟨fun ⟨child, parent⟩ => ⟨child, parent⟩, fun h => ⟨h.child, h.parent⟩⟩

/-- On either side, a key is spelled if the columns that it joins are listed. -/
theorem KeyColumn.spelled_iff {tables : List Table} (side : Cardinality) : key.Spelled tables ↔
    Lists tables (key.owner side) (key.link side).sourceColumn ∧
      Lists tables (key.link side).target (key.link side).targetColumn := by
  cases side with
  | one => exact ⟨fun h => ⟨h.child, h.parent⟩, fun h => ⟨h.1, h.2⟩⟩
  | many => exact ⟨fun h => ⟨h.parent, h.child⟩, fun h => ⟨h.2, h.1⟩⟩

/-- The catalog that introspection builds, if it is one. -/
def introspected (db : Database) : Catalog := ⟨entitiesOfDatabase db⟩

theorem names_introspected (db : Database) :
    (introspected db).entities.map (·.name) = (userTables db).map (·.name) := by
  show ((userTables db).map (entityOfTable (keysOf db))).map (·.name) = _
  rw [List.map_map]
  exact List.map_congr_left fun t _ => name_entityOfTable _ t

/-- Each table of the user has its entity. -/
theorem entity?_introspected (hnames : ((userTables db).map (·.name)).Nodup) (ht : t ∈ userTables db) :
    (introspected db).entity? t.name = some (entityOfTable (keysOf db) t) := by
  have hentity := entity?_of_mem (c := introspected db) (names_introspected db ▸ hnames)
    (List.mem_map_of_mem ht)
  rwa [name_entityOfTable] at hentity

/-- Each entity is that of a table of the user. -/
theorem exists_table_of_entity? {e : Entity} (h : (introspected db).entity? name = some e) :
    ∃ t ∈ userTables db, t.name = name ∧ e = entityOfTable (keysOf db) t := by
  obtain ⟨t, ht, rfl⟩ := List.mem_map.mp (mem_of_entity? h)
  exact ⟨t, ht, (name_entityOfTable _ t).symm.trans (name_of_entity? h), rfl⟩

/-- What a relationship joins passes the checks exactly if its key is spelled as it should be. -/
theorem checkRelationship_introspected (hnames : ((userTables db).map (·.name)).Nodup)
    (ht : t ∈ userTables db) (howner : key.owner side = t.name) :
    (introspected db).checkRelationship (entityOfTable (keysOf db) t) (key.relationship side) =
      .ok () ↔ key.Spelled (userTables db) := by
  rw [checkRelationship_eq_ok_iff, KeyColumn.spelled_iff side, howner]
  constructor
  · rintro ⟨e, he, hsource, htarget⟩
    obtain ⟨t', ht', hname, rfl⟩ := exists_table_of_entity? he
    exact ⟨⟨t, ht, rfl, exists_field?_entityOfTable_iff.mp hsource⟩, t', ht', hname,
      exists_field?_entityOfTable_iff.mp htarget⟩
  · rintro ⟨⟨t₁, ht₁, hname₁, hsource⟩, t', ht', hname', htarget⟩
    obtain rfl : t₁ = t := List.inj_on_of_nodup_map hnames ht₁ ht hname₁
    have hentity := entity?_introspected hnames ht'
    rw [hname'] at hentity
    exact ⟨_, hentity, exists_field?_entityOfTable_iff.mpr hsource,
      exists_field?_entityOfTable_iff.mpr htarget⟩

/-- Introspection succeeds exactly if tables have different names and every key with an offer that is
the first of its name is spelled as the tables and columns that it is about. -/
theorem introspect_eq_ok_iff : introspect db = .ok c ↔
    c = introspected db ∧ ((userTables db).map (·.name)).Nodup ∧
      ∀ t ∈ userTables db, ∀ name side key,
        firstOffer? (keysOf db) t name = some (side, key) → key.Spelled (userTables db) := by
  rw [introspect, build_eq_ok_iff]
  refine and_congr_right fun _ => ?_
  have hnames := names_introspected db
  rw [introspected] at hnames
  rw [hnames]
  refine and_congr_right fun hnodup => ?_
  rw [entitiesOfDatabase, List.forall_mem_map]
  refine forall₂_congr fun t ht => ?_
  rw [checkEntity, forM_eq_ok]
  constructor
  · intro h name side key hfirst
    refine (checkRelationship_introspected hnodup ht (mem_of_firstOffer? hfirst).2).mp (h _ ?_)
    have hfound : (entityOfTable (keysOf db) t).relationship? name = some (key.relationship side) := by
      rw [relationship?_entityOfTable, hfirst, Option.map_some]
    exact Entity.mem_relationships hfound
  · intro h r hr
    obtain ⟨side, key, hfirst, rfl⟩ := exists_offer_of_mem_relationships hr
    exact (checkRelationship_introspected hnodup ht (mem_of_firstOffer? hfirst).2).mpr
      (h _ side key hfirst)

/-- Introspection succeeds where every key is spelled as the tables and columns that it is about. -/
theorem introspect_of_spelled (hdb : db.Distinct)
    (h : ∀ t ∈ db.tables.filter fun t => !isSystemTable t.name, ∀ key ∈ keyColumns t,
      key.Spelled (db.tables.filter fun t => !isSystemTable t.name)) :
    introspect db = .ok (introspected db) := by
  have hmem : ∀ t, t ∈ userTables db ↔ t ∈ db.tables.filter fun t => !isSystemTable t.name :=
    fun t => (userTables_perm db).mem_iff
  have hlists : ∀ table column, Lists (userTables db) table column ↔
      Lists (db.tables.filter fun t => !isSystemTable t.name) table column :=
    fun table column => exists_congr fun t => and_congr_left fun _ => hmem t
  refine introspect_eq_ok_iff.mpr ⟨rfl, nodup_userTables hdb.names, ?_⟩
  intro t _ name side key hfirst
  obtain ⟨t', ht', hkey⟩ := mem_keysOf.mp (mem_of_firstOffer? hfirst).1
  have hspelled := h t' ((hmem t').mp ht') key hkey
  exact ⟨(hlists _ _).mpr hspelled.child, (hlists _ _).mpr hspelled.parent⟩

end Catalog

end DottedQuery
