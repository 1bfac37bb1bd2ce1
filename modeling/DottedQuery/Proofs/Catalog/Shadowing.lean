/-
# DottedQuery.Proofs.Catalog.Shadowing -- which keys the relationships of an entity come from

Several keys may have a relationship of one name for an entity: two keys to one parent, a key of a table to
itself, a column whose stem is the name of a table. The first of a name is kept, and those of the own keys
of a table come before those of the keys that refer to it. So the relationships of an entity are a list of
offers without those whose name was taken (`untaken`), and a key that has no relationship on one side
can be found there behind another one.

On the side of the parent this takes a table that is spelled as the key spells its parent. A database
also finds the parent in another case. Introspection does not, and then the key is neither shown nor
shadowed on that side (`missing_on_parent`).
-/
import DottedQuery.Proofs.Catalog.Introspected
import DottedQuery.Proofs.Store.TextEncoding
import DottedQuery.Proofs.Catalog.Validation

namespace DottedQuery.Catalog

open Store (Database Table)

variable {db : Database} {c : Catalog} {e : Entity} {key : KeyColumn} {side : Cardinality} {t : Table}
  {taken : List String} {r : Relationship} {rs : List Relationship}

/-! ## Names that are taken -/

/-- The relationships of a list whose names are not taken, either from the beginning or by one before. -/
def untaken (taken : List String) : List Relationship → List Relationship
  | [] => []
  | r :: rs => if r.name ∈ taken then untaken taken rs else r :: untaken (taken ++ [r.name]) rs

theorem untaken_cons_of_mem (h : r.name ∈ taken) : untaken taken (r :: rs) = untaken taken rs :=
  if_pos h

theorem untaken_cons_of_not_mem (h : r.name ∉ taken) :
    untaken taken (r :: rs) = r :: untaken (taken ++ [r.name]) rs := if_neg h

/-- Another relationship of the name stands before this one in a list, and is left. -/
def Shadowed (rs left : List Relationship) (r : Relationship) : Prop :=
  ∃ earlier later, rs = earlier ++ r :: later ∧ ∃ other ∈ earlier, other.name = r.name ∧ other ∈ left

theorem Shadowed.cons {left left' : List Relationship} (h : Shadowed rs left r) (first : Relationship)
    (hleft : left ⊆ left') : Shadowed (first :: rs) left' r := by
  obtain ⟨earlier, later, rfl, other, hother, hname, hkept⟩ := h
  exact ⟨first :: earlier, later, rfl, other, List.mem_cons_of_mem _ hother, hname, hleft hkept⟩

/-- A relationship of a list is left unless its name was taken, from the beginning or by another one that
is left. -/
theorem mem_untaken_or_shadowed (h : r ∈ rs) :
    r.name ∈ taken ∨ r ∈ untaken taken rs ∨ Shadowed rs (untaken taken rs) r := by
  induction rs generalizing taken with
  | nil => exact absurd h List.not_mem_nil
  | cons first rs ih =>
    by_cases htaken : first.name ∈ taken
    · rw [untaken_cons_of_mem htaken]
      rcases List.mem_cons.mp h with rfl | h
      · exact Or.inl htaken
      · exact (ih h).imp_right (Or.imp_right fun hshadowed => hshadowed.cons first (List.Subset.refl _))
    · rw [untaken_cons_of_not_mem htaken]
      rcases List.mem_cons.mp h with rfl | h
      · exact Or.inr (Or.inl List.mem_cons_self)
      · have hrest : r.name ∈ taken ++ [first.name] ∨ r ∈ untaken (taken ++ [first.name]) rs ∨
            Shadowed rs (untaken (taken ++ [first.name]) rs) r := ih h
        rcases hrest with hname | hleft | hshadowed
        · rcases List.mem_append.mp hname with hname | hname
          · exact Or.inl hname
          · -- the first one takes the name
            obtain ⟨earlier, later, rfl⟩ := List.append_of_mem h
            exact Or.inr (Or.inr ⟨first :: earlier, later, rfl, first, List.mem_cons_self,
              (List.mem_singleton.mp hname).symm, List.mem_cons_self⟩)
        · exact Or.inr (Or.inl (List.mem_cons_of_mem _ hleft))
        · exact Or.inr (Or.inr (hshadowed.cons first (List.subset_cons_self _ _)))

/-! ## What is offered to a table -/

/-- The relationships that keys have for a table: those of its own keys, then those of the keys of all
tables that refer to it. -/
def offered (db : Database) (t : Table) : List Relationship :=
  (keyColumns t).map (·.relationship .one) ++
    ((keysOf db).filter (·.parent = t.name)).map (·.relationship .many)

theorem child_of_mem_keyColumns (h : key ∈ keyColumns t) : key.child = t.name := by
  obtain ⟨_, _, _, _, _, rfl⟩ := mem_keyColumns.mp h
  rfl

/-- With distinct names, the keys of a table are told from those of all others by the child. -/
theorem filter_child (tables : List Table) (hnames : (tables.map (·.name)).Nodup) (ht : t ∈ tables) :
    (tables.flatMap keyColumns).filter (·.child = t.name) = keyColumns t := by
  have hown : (keyColumns t).filter (·.child = t.name) = keyColumns t :=
    List.filter_eq_self.mpr fun key hkey => decide_eq_true (child_of_mem_keyColumns hkey)
  have hother : ∀ others : List Table, t.name ∉ others.map (·.name) →
      (others.flatMap keyColumns).filter (·.child = t.name) = [] := by
    intro others hmissing
    rw [List.filter_eq_nil_iff]
    intro key hkey hchild
    obtain ⟨other, hmem, hkey⟩ := List.mem_flatMap.mp hkey
    have hname : other.name = t.name :=
      (child_of_mem_keyColumns hkey).symm.trans (of_decide_eq_true hchild)
    exact hmissing (hname ▸ List.mem_map_of_mem hmem)
  obtain ⟨before, after, rfl⟩ := List.append_of_mem ht
  rw [List.map_append, List.map_cons, List.nodup_middle, List.nodup_cons, List.mem_append,
    not_or] at hnames
  obtain ⟨⟨hbefore, hafter⟩, -⟩ := hnames
  rw [List.flatMap_append, List.flatMap_cons, List.filter_append, List.filter_append,
    hother before hbefore, hother after hafter, hown, List.nil_append, List.append_nil]

/-- The two accounts of what is offered agree. -/
theorem map_offers (hnames : ((userTables db).map (·.name)).Nodup) (ht : t ∈ userTables db) :
    (offers (keysOf db) t).map (fun offer => offer.2.relationship offer.1) = offered db t := by
  rw [offers, List.flatMap_cons, List.flatMap_singleton, List.map_append, List.map_map, List.map_map]
  show ((keysOf db).filter (·.child = t.name)).map (·.relationship .one) ++ _ = _
  rw [keysOf, filter_child _ hnames ht]
  rfl

theorem mem_offered (hnames : ((userTables db).map (·.name)).Nodup) (ht : t ∈ userTables db) :
    r ∈ offered db t ↔ ∃ side, ∃ key ∈ keysOf db, key.owner side = t.name ∧ r = key.relationship side := by
  rw [← map_offers hnames ht, List.mem_map]
  constructor
  · rintro ⟨⟨side, key⟩, hoffer, rfl⟩
    obtain ⟨hkey, howner⟩ := mem_offers.mp hoffer
    exact ⟨side, key, hkey, howner, rfl⟩
  · rintro ⟨side, key, hkey, howner, rfl⟩
    exact ⟨(side, key), mem_offers.mpr ⟨hkey, howner⟩, rfl⟩

/-! ## What is kept -/

/-- A relationship of a name that is free goes to the end. -/
theorem relationships_addLink {name : String} (h : name ∉ e.edges.keys) (link : Link) :
    (e.addLink name link).relationships = e.relationships ++ [e.relationshipOf name link] := by
  show (putEntry name (e.relationshipOf name link) e.edges.entries).map _ = _
  rw [putEntry_of_not_mem h, List.map_append]
  rfl

/-- Of what is offered, an entity keeps what is not taken. -/
theorem relationships_granted (e : Entity) (links : List (String × Link)) :
    (granted e links).relationships = e.relationships ++
      untaken e.edges.keys (links.map fun offer => e.relationshipOf offer.1 offer.2) := by
  induction links generalizing e with
  | nil => exact (List.append_nil _).symm
  | cons offer links ih =>
    rw [granted_cons, List.map_cons]
    by_cases htaken : offer.1 ∈ e.edges.keys
    · have hstep : addFresh e offer.1 offer.2 = e := by
        rw [addFresh, if_pos]
        exact Option.isSome_iff_exists.mpr (Dict.exists_get?_iff.mpr htaken)
      rw [hstep, untaken_cons_of_mem htaken, ih]
    · have hstep : addFresh e offer.1 offer.2 = e.addLink offer.1 offer.2 := by
        rw [addFresh, if_neg]
        exact fun h => htaken (Dict.exists_get?_iff.mp (Option.isSome_iff_exists.mp h))
      have hkeys : (e.addLink offer.1 offer.2).edges.keys = e.edges.keys ++ [offer.1] := by
        rw [Entity.addLink, Dict.keys_insert, if_neg htaken]
      have hname : (e.relationshipOf offer.1 offer.2).name ∉ e.edges.keys := htaken
      rw [hstep, untaken_cons_of_not_mem hname, ih, relationships_addLink htaken, hkeys,
        List.append_assoc]
      rfl

/-- The entity of a table has of what is offered to it the first of each name, in order. -/
theorem relationships_entityOfTable (hnames : ((userTables db).map (·.name)).Nodup)
    (ht : t ∈ userTables db) :
    (entityOfTable (keysOf db) t).relationships = untaken [] (offered db t) := by
  have hoffered : (offers (keysOf db) t).map (fun offer =>
      (bareEntity t).relationshipOf (offer.2.nameOf offer.1) (offer.2.link offer.1)) = offered db t := by
    rw [← map_offers hnames ht]
    refine List.map_congr_left fun ⟨side, key⟩ hoffer => ?_
    rw [Entity.relationshipOf, name_bareEntity, ← (mem_offers.mp hoffer).2]
    rfl
  rw [entityOfTable_eq, relationships_granted, List.map_map, Entity.relationships, edges_bareEntity]
  exact congrArg (untaken []) hoffered

/-! ## Where keys are found -/

/-- A key is found on a side: its owner is a table whose entity has the relationship of the key, or another
one of that name that was offered before. -/
def Represented (db : Database) (c : Catalog) (side : Cardinality) (key : KeyColumn) : Prop :=
  ∃ t ∈ userTables db, t.name = key.owner side ∧ ∃ e, c.entity? t.name = some e ∧
    (key.relationship side ∈ e.relationships ∨
      Shadowed (offered db t) e.relationships (key.relationship side))

/-- One relationship leads back where the other one comes from, over the same columns. -/
structure Inverse (r r' : Relationship) : Prop where
  source : r.source = r'.target
  target : r.target = r'.source
  sourceColumn : r.sourceColumn = r'.targetColumn
  targetColumn : r.targetColumn = r'.sourceColumn

theorem KeyColumn.inverse (key : KeyColumn) : Inverse (key.relationship .many) (key.relationship .one) :=
  ⟨rfl, rfl, rfl, rfl⟩

/-- A key is found on a side exactly if a table has the name of its owner. -/
theorem represented_iff (hnames : ((userTables db).map (·.name)).Nodup) (hkey : key ∈ keysOf db) :
    Represented db (introspected db) side key ↔ ∃ t ∈ userTables db, t.name = key.owner side := by
  constructor
  · rintro ⟨t, ht, hname, -⟩
    exact ⟨t, ht, hname⟩
  · rintro ⟨t, ht, hname⟩
    refine ⟨t, ht, hname, _, entity?_introspected hnames ht, ?_⟩
    rw [relationships_entityOfTable hnames ht]
    have hoffered : key.relationship side ∈ offered db t :=
      (mem_offered hnames ht).mpr ⟨side, key, hkey, hname.symm, rfl⟩
    exact (mem_untaken_or_shadowed hoffered).resolve_left List.not_mem_nil

/-- The table of a key is one of the user's. -/
theorem exists_child (hkey : key ∈ keysOf db) : ∃ t ∈ userTables db, t.name = key.child := by
  obtain ⟨t, ht, hkey⟩ := mem_keysOf.mp hkey
  exact ⟨t, ht, (child_of_mem_keyColumns hkey).symm⟩

/-- With distinct names, tables are taken strictly in the order of their names. -/
theorem userTables_pairwise (hnames : ((userTables db).map (·.name)).Nodup) :
    (userTables db).Pairwise fun t t' => db.encoding.Before t.name t'.name := by
  have hsorted : (userTables db).Pairwise fun t t' => ¬db.encoding.Before t'.name t.name := by
    refine (List.pairwise_mergeSort ?_ ?_ _).imp of_decide_eq_true
    · intro a b c hab hbc
      exact decide_eq_true
        (Store.TextEncoding.not_before_trans (of_decide_eq_true hab) (of_decide_eq_true hbc))
    · intro a b
      rw [Bool.or_eq_true, decide_eq_true_iff, decide_eq_true_iff]
      exact db.encoding.not_before_total a.name b.name
  exact hsorted.imp₂ (fun _ _ h hne => Store.TextEncoding.before_of_ne hne h)
    (List.pairwise_map.mp hnames)

/-- What a table has under a name that one of its own keys gives is that of an own key. -/
theorem exists_firstOffer?_one {keys : List KeyColumn} (hkey : key ∈ keys) (hchild : key.child = t.name) :
    ∃ own, firstOffer? keys t (parentName key) = some (.one, own) := by
  have hown : key ∈ keys.filter (fun key => key.owner .one = t.name) :=
    List.mem_filter.mpr ⟨hkey, decide_eq_true hchild⟩
  have hfound : ((keys.filter fun key => key.owner .one = t.name).find? fun own =>
      own.nameOf .one = parentName key).isSome = true :=
    List.find?_isSome.mpr ⟨key, hown, decide_eq_true rfl⟩
  obtain ⟨own, hown⟩ := Option.isSome_iff_exists.mp hfound
  refine ⟨own, ?_⟩
  rw [firstOffer?, offers, List.flatMap_cons, List.find?_append, List.find?_map]
  show (Option.map _ ((keys.filter fun key => key.owner .one = t.name).find? fun own =>
    own.nameOf .one = parentName key)).or _ = _
  rw [hown]
  rfl

/-- A key whose relationship to its parent is there is found at the parent. -/
theorem exists_parent_of_shown (hc : introspect db = .ok (introspected db))
    (he : (introspected db).entity? key.child = some e) (hshown : key.relationship .one ∈ e.relationships) :
    ∃ t ∈ userTables db, t.name = key.parent := by
  obtain ⟨-, hvalid⟩ := build_eq_ok_iff_valid.mp hc
  obtain ⟨target, htarget, hname, -⟩ := (hvalid.joins e (mem_of_entity? he) _ hshown).target
  obtain ⟨t, ht, rfl⟩ := List.mem_map.mp htarget
  exact ⟨t, ht, (name_entityOfTable _ t).symm.trans hname⟩

/-- A relationship to many leads back over a key of its target. -/
theorem exists_key_of_many {name : String} (he : (introspected db).entity? name = some e)
    (hr : r ∈ e.relationships) (hmany : r.cardinality = .many) :
    ∃ t ∈ userTables db, t.name = r.target ∧ ∃ key ∈ keyColumns t, Inverse r (key.relationship .one) := by
  obtain ⟨owner, -, -, rfl⟩ := exists_table_of_entity? he
  obtain ⟨side, key, hfirst, rfl⟩ := exists_offer_of_mem_relationships hr
  obtain ⟨t, ht, hkey⟩ := mem_keysOf.mp (mem_of_firstOffer? hfirst).1
  cases side with
  | one => cases hmany
  | many => exact ⟨t, ht, (child_of_mem_keyColumns hkey).symm, key, hkey, key.inverse⟩

/-- In a catalog from a database, the entity of each table has exactly, and in order, what is offered to
the table and is not taken. Every key is found on the side of its child, where what bears its name leads
to one record. On the side of its parent it is found exactly if a table has the name of the parent, as
it does whenever the relationship of the key itself is there on the side of the child. Every
relationship to many is the inverse of a key of its target. -/
theorem relationships_of_rows (h : introspect db = .ok c) :
    ((userTables db).Pairwise fun t t' => db.encoding.Before t.name t'.name) ∧
      (∀ t ∈ userTables db, ∃ e, c.entity? t.name = some e ∧
        e.relationships = untaken [] (offered db t)) ∧
      (∀ key ∈ keysOf db, Represented db c .one key ∧
        (∃ r, c.relationship? key.child (parentName key) = some r ∧ r.cardinality = .one) ∧
        (Represented db c .many key ↔ ∃ t ∈ userTables db, t.name = key.parent) ∧
        ∀ e, c.entity? key.child = some e → key.relationship .one ∈ e.relationships →
          Represented db c .many key) ∧
      ∀ name e, c.entity? name = some e → ∀ r ∈ e.relationships, r.cardinality = .many →
        ∃ t ∈ userTables db, t.name = r.target ∧
          ∃ key ∈ keyColumns t, Inverse r (key.relationship .one) := by
  obtain ⟨rfl, hnames, -⟩ := introspect_eq_ok_iff.mp h
  refine ⟨userTables_pairwise hnames, fun t ht => ?_, fun key hkey => ⟨?_, ?_, ?_, ?_⟩, ?_⟩
  · exact ⟨_, entity?_introspected hnames ht, relationships_entityOfTable hnames ht⟩
  · exact (represented_iff hnames hkey).mpr (exists_child hkey)
  · obtain ⟨t, ht, hchild⟩ := exists_child hkey
    obtain ⟨own, hfirst⟩ := exists_firstOffer?_one hkey hchild.symm
    refine ⟨own.relationship .one, ?_, rfl⟩
    rw [relationship?, ← hchild, entity?_introspected hnames ht, Option.bind_some,
      relationship?_entityOfTable, hfirst, Option.map_some]
  · exact represented_iff hnames hkey
  · intro e he hshown
    exact (represented_iff hnames hkey).mpr (exists_parent_of_shown h he hshown)
  · intro name e he r hr hmany
    exact exists_key_of_many he hr hmany

namespace Samplers

/-- A table that has nothing but numbers. -/
def numbered (name : String) : Table where
  name := name
  columns := [{ name := "id", declared := "INTEGER" }]

/-- Tracks, whose album is an album or an artist. The key declared last comes first. -/
def tracks : Table where
  name := "tracks"
  columns := [{ name := "id", declared := "INTEGER" }, { name := "album_id", declared := "INTEGER" }]
  foreignKeys := [⟨["album_id"], "Albums", some ["id"]⟩, ⟨["album_id"], "artists", some ["id"]⟩]

def database : Database where
  tables := [numbered "albums", numbered "artists", tracks]

/-- The key to the albums. -/
def toAlbums : KeyColumn := ⟨"tracks", "album_id", "Albums", "id"⟩

/-- The key to the artists. -/
def toArtists : KeyColumn := ⟨"tracks", "album_id", "artists", "id"⟩

theorem userTables_database : userTables database = [numbered "albums", numbered "artists", tracks] := by
  refine userTables_of_sorted ?_ ?_
  · show ∀ t ∈ [numbered "albums", numbered "artists", tracks], isSystemTable t.name = false
    simp only [List.forall_mem_cons, List.not_mem_nil, false_implies, implies_true, and_true]
    show isSystemTable "albums" = false ∧ isSystemTable "artists" = false ∧ isSystemTable "tracks" = false
    decide
  · show [numbered "albums", numbered "artists", tracks].Pairwise fun t t' => t.name ≤ t'.name
    decide

theorem keysOf_database : keysOf database = [toArtists, toAlbums] := by
  rw [keysOf, userTables_database]
  rfl

theorem introspect_database : introspect database = .ok (introspected database) := by
  rw [introspected, introspect, entitiesOfDatabase, userTables_database]
  rfl

/-- The key to the artists has its relationships. That to the albums is behind it at the tracks. -/
theorem relationships_of_rows_tracks : ∃ c, introspect database = .ok c ∧
    (∃ e, c.entity? "tracks" = some e ∧ e.relationships = [toArtists.relationship .one]) ∧
    (∃ e, c.entity? "artists" = some e ∧ e.relationships = [toArtists.relationship .many]) ∧
    Represented database c .one toAlbums ∧ Represented database c .many toArtists := by
  obtain ⟨-, hrelationships, hkeys, -⟩ := relationships_of_rows introspect_database
  rw [keysOf_database] at hkeys
  rw [userTables_database] at hrelationships hkeys
  obtain ⟨-, -, hartists, -⟩ := hkeys toArtists (by decide)
  obtain ⟨halbums, -⟩ := hkeys toAlbums (by decide)
  refine ⟨_, introspect_database, ?_, ?_, halbums, hartists.mpr ⟨numbered "artists", by simp, rfl⟩⟩
  · obtain ⟨e, he, heq⟩ := hrelationships tracks (by simp)
    refine ⟨e, he, heq.trans ?_⟩
    rw [offered, keysOf_database]
    rfl
  · obtain ⟨e, he, heq⟩ := hrelationships (numbered "artists") (by simp)
    refine ⟨e, he, heq.trans ?_⟩
    rw [offered, keysOf_database]
    rfl

/-- The database finds the albums by the name that the key has for them, but nothing comes of the key at
the albums, where no other relationship is in its way. -/
theorem missing_on_parent : introspect database = .ok (introspected database) ∧
    toAlbums ∈ keysOf database ∧ database.table? toAlbums.parent = some (numbered "albums") ∧
    (∃ e, (introspected database).entity? "albums" = some e ∧ e.relationships = []) ∧
    ¬Represented database (introspected database) .many toAlbums := by
  refine ⟨introspect_database, ?_, rfl, ?_, ?_⟩
  · rw [keysOf_database]
    decide
  · refine ⟨entityOfTable (keysOf database) (numbered "albums"), ?_, ?_⟩
    · rw [introspected, entitiesOfDatabase, keysOf, userTables_database]
      rfl
    · rw [keysOf_database]
      rfl
  · rintro ⟨t, ht, hname, -⟩
    rw [userTables_database] at ht
    have hnone : ∀ t ∈ [numbered "albums", numbered "artists", tracks],
        t.name ≠ toAlbums.owner .many := by decide
    exact hnone t ht hname

end Samplers

end DottedQuery.Catalog
