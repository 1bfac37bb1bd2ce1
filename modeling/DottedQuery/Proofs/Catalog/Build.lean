/-
# DottedQuery.Proofs.Catalog.Build -- what a catalog that was built promises

Building checks every relationship of every entity. In a catalog that was built each relationship
leads to a known entity, and the two columns it joins are fields, one of the entity it belongs to and
the other of its target (`joins_of_build`). With distinct names, that is also all that building asks for
(`build_eq_ok_iff`). Catalogs that are read from documents and files or taken from a database are built on
the way (`Checked.exists_build`), of entities that are made step by step (`Loaded.made`).
-/
import DottedQuery.Catalog.Introspection
import DottedQuery.Catalog.Reading
import DottedQuery.Proofs.Catalog.Making
import DottedQuery.Proofs.Catalog.Trail
import Mathlib.Data.List.Nodup

namespace DottedQuery

/-- Where what entries are looked up by is different in all of them, each entry is found. -/
theorem find?_of_nodup {α β : Type} [DecidableEq β] {f : α → β} {entries : List α} {entry : α}
    (h : (entries.map f).Nodup) (hentry : entry ∈ entries) :
    (entries.find? fun other => f other = f entry) = some entry := by
  cases hfound : entries.find? fun other => f other = f entry with
  | none =>
    have hother := List.find?_eq_none.mp hfound entry hentry
    simp at hother
  | some other =>
    have hsame : f other = f entry := by simpa using List.find?_some hfound
    rw [List.inj_on_of_nodup_map h (List.mem_of_find?_eq_some hfound) hentry hsame]

/-- A relationship that is found under its name is listed. -/
theorem Entity.mem_relationships {e : Entity} {name : String} {r : Relationship}
    (h : e.relationship? name = some r) : r ∈ e.relationships :=
  List.mem_map.mpr ⟨(name, r), valueAt?_mem h, rfl⟩

/-- A relationship that is listed is found under its name. -/
theorem Entity.relationship?_of_mem {e : Entity} {r : Relationship} (h : r ∈ e.relationships) :
    e.relationship? r.name = some r := by
  obtain ⟨entry, hentry, rfl⟩ := List.mem_map.mp h
  rw [e.edges_keyed entry hentry]
  exact Dict.get?_of_mem hentry

namespace Catalog

variable {c : Catalog} {entities : List Entity} {e owner : Entity} {r : Relationship}
  {name column : String}

theorem mem_of_entity? (h : c.entity? name = some e) : e ∈ c.entities := List.mem_of_find?_eq_some h

theorem checkColumn_eq_ok_iff :
    checkColumn e r owner column = .ok () ↔ ∃ f, owner.field? column = some f := by
  unfold checkColumn
  cases owner.field? column with
  | none =>
    constructor
    · intro h
      cases h
    · rintro ⟨f, hf⟩
      cases hf
  | some f => exact ⟨fun _ => ⟨f, rfl⟩, fun _ => rfl⟩

/-- A relationship passes its check exactly when its target is known and its columns are fields. -/
theorem checkRelationship_eq_ok_iff :
    c.checkRelationship e r = .ok () ↔ ∃ target, c.entity? r.target = some target ∧
      (∃ f, e.field? r.sourceColumn = some f) ∧ ∃ f, target.field? r.targetColumn = some f := by
  unfold checkRelationship
  cases c.entity? r.target with
  | none =>
    constructor
    · intro h
      cases h
    · rintro ⟨target, htarget, -⟩
      cases htarget
  | some target =>
    show (checkColumn e r e r.sourceColumn >>= fun _ => checkColumn e r target r.targetColumn) =
      .ok () ↔ _
    rw [bind_eq_ok]
    constructor
    · rintro ⟨_, hsource, htarget⟩
      exact ⟨target, rfl, checkColumn_eq_ok_iff.mp hsource, checkColumn_eq_ok_iff.mp htarget⟩
    · rintro ⟨_, ⟨⟩, hsource, htarget⟩
      exact ⟨(), checkColumn_eq_ok_iff.mpr hsource, checkColumn_eq_ok_iff.mpr htarget⟩

/-- No name is met again exactly if the names are distinct and none of them was seen before. -/
theorem firstRepeated?_eq_none_iff {seen names : List String} :
    firstRepeated? seen names = none ↔ names.Nodup ∧ ∀ other ∈ names, other ∉ seen := by
  induction names generalizing seen with
  | nil => simp [firstRepeated?]
  | cons first names ih =>
    rw [firstRepeated?, List.nodup_cons, List.forall_mem_cons]
    by_cases hseen : first ∈ seen
    · simp [hseen]
    · rw [if_neg hseen, ih]
      -- a later name is compared with the first one too
      constructor
      · rintro ⟨hnodup, hfresh⟩
        refine ⟨⟨fun hmem => hfresh first hmem List.mem_cons_self, hnodup⟩, hseen, ?_⟩
        exact fun other hother hold => hfresh other hother (List.mem_cons_of_mem _ hold)
      · rintro ⟨⟨hfirst, hnodup⟩, -, hfresh⟩
        refine ⟨hnodup, fun other hother hold => ?_⟩
        rcases List.mem_cons.mp hold with rfl | hold
        · exact hfirst hother
        · exact hfresh other hother hold

/-- Building changes nothing. It succeeds exactly if the names of the entities are distinct and all
entities pass their checks. -/
theorem build_eq_ok_iff : build entities = .ok c ↔
    c = ⟨entities⟩ ∧ (entities.map (·.name)).Nodup ∧
      ∀ e ∈ entities, checkEntity ⟨entities⟩ e = .ok () := by
  have hnames : firstRepeated? [] (entities.map (·.name)) = none ↔ (entities.map (·.name)).Nodup :=
    firstRepeated?_eq_none_iff.trans (and_iff_left fun _ _ => List.not_mem_nil)
  unfold build
  cases hrepeated : firstRepeated? [] (entities.map (·.name)) with
  | some first =>
    have hnot : ¬(entities.map (·.name)).Nodup := by
      rw [← hnames, hrepeated]
      nofun
    exact iff_of_false nofun fun h => hnot h.2.1
  | none =>
    rw [bind_eq_ok]
    constructor
    · rintro ⟨_, hchecks, hpure⟩
      cases hpure
      exact ⟨rfl, hnames.mp hrepeated, forM_eq_ok.mp hchecks⟩
    · rintro ⟨rfl, -, hchecks⟩
      exact ⟨(), forM_eq_ok.mpr hchecks, rfl⟩

/-- Building changes nothing and admits only entities that pass their checks. -/
theorem checks_of_build (h : build entities = .ok c) :
    c.entities = entities ∧ ∀ e ∈ c.entities, c.checkEntity e = .ok () := by
  obtain ⟨rfl, -, hchecks⟩ := build_eq_ok_iff.mp h
  exact ⟨rfl, hchecks⟩

/-- With distinct names, each entity is found under its own. -/
theorem entity?_of_mem (hnames : (c.entities.map (·.name)).Nodup) (he : e ∈ c.entities) :
    c.entity? e.name = some e := find?_of_nodup hnames he

/-- In a catalog that was built, a relationship of a known entity joins a field of this entity with a
field of its target. -/
theorem joins_of_build (h : build entities = .ok c) (he : c.entity? name = some e)
    {relationship : String} (hr : e.relationship? relationship = some r) :
    ∃ target, c.entity? r.target = some target ∧ (∃ f, e.field? r.sourceColumn = some f) ∧
      ∃ f, target.field? r.targetColumn = some f := by
  obtain ⟨-, hchecks⟩ := checks_of_build h
  have hentity : c.checkEntity e = .ok () := hchecks e (mem_of_entity? he)
  exact checkRelationship_eq_ok_iff.mp (forM_eq_ok.mp hentity r (Entity.mem_relationships hr))

/-! ## Where built catalogs come from -/

/-- The entity of an entry has its table from the start, and then gets its fields and relationships. -/
theorem EntityEntry.toEntity_eq (entry : EntityEntry) (name : String) : entry.toEntity name =
    (Entity.addFields { Entity.ofName name with table := entry.table } entry.fields.entries).addLinks
      entry.relationships.entries := by
  rw [toEntity]
  cases entry.table with
  | none => rfl
  | some table => rfl

theorem made_toEntity (entry : EntityEntry) (name : String) : (entry.toEntity name).Made := by
  rw [entry.toEntity_eq]
  exact (Entity.Made.addFields (.setTable entry.table (.ofName name)) _).addLinks _

theorem made_addFresh (h : e.Made) (name : String) (link : Link) : (addFresh e name link).Made := by
  rw [addFresh]
  split
  · exact h
  · exact .addLink name link h

/-- Foreign keys add relationships to an entity that has its name. -/
theorem made_entityOfTable (keys : List KeyColumn) (t : Store.Table) : (entityOfTable keys t).Made := by
  have hplain : ((Entity.ofName t.name).addFields
      ((t.columns.filter (!·.computed)).map fun c => (c.name, typeOfDeclared c.declared))).Made :=
    Entity.Made.addFields (.ofName t.name) _
  have hown := List.foldlRecOn (keys.filter (·.child = t.name)) addParent hplain
    fun e h key _ => made_addFresh h (parentName key) ⟨key.parent, key.column, key.parentColumn, .one⟩
  exact List.foldlRecOn (keys.filter (·.parent = t.name)) addChildren hown
    fun e h key _ => made_addFresh h key.child ⟨key.child, key.parentColumn, key.column, .many⟩

/-- Catalogs that the program loads: out of a document in TOML or in JSON, from a file, or from a
database. -/
inductive Loaded : Catalog → Prop
  | document {c : Catalog} {d : Document} (h : ofDocument d = .ok c) : Loaded c
  | file {c : Catalog} {files : Files} {name : String} (h : ofFile files name = .ok c) : Loaded c
  | database {c : Catalog} {db : Store.Database} (h : introspect db = .ok c) : Loaded c

/-- Catalogs that were checked when they were made: of entities given in code, or by loading. -/
inductive Checked : Catalog → Prop
  | code {c : Catalog} {entities : List Entity} (h : build entities = .ok c) : Checked c
  | loaded {c : Catalog} (h : c.Loaded) : Checked c

theorem exists_build_of_ofDocument {d : Document} (h : ofDocument d = .ok c) :
    ∃ entities, build entities = .ok c ∧ ∀ e ∈ entities, e.Made := by
  obtain ⟨entries, -, hbuild⟩ := bind_eq_ok.mp h
  refine ⟨entitiesOf entries, mapError_succeeds.mp hbuild, fun e he => ?_⟩
  obtain ⟨entry, -, rfl⟩ := List.mem_map.mp he
  exact made_toEntity entry.2 entry.1

/-- Loading builds a catalog from entities that are made step by step. -/
theorem Loaded.exists_build (h : c.Loaded) :
    ∃ entities, build entities = .ok c ∧ ∀ e ∈ entities, e.Made := by
  cases h with
  | document h => exact exists_build_of_ofDocument h
  | file h =>
    obtain ⟨text, -, hread⟩ := bind_eq_ok.mp h
    split at hread
    · exact exists_build_of_ofDocument hread
    · exact exists_build_of_ofDocument hread
  | database h =>
    refine ⟨_, h, fun e he => ?_⟩
    obtain ⟨t, -, rfl⟩ := List.mem_map.mp he
    exact made_entityOfTable _ t

theorem Loaded.made (h : c.Loaded) (he : e ∈ c.entities) : e.Made := by
  obtain ⟨entities, hbuild, hmade⟩ := h.exists_build
  obtain ⟨rfl, -⟩ := checks_of_build hbuild
  exact hmade e he

/-- Wherever its entities come from, a catalog that was checked was built from them. -/
theorem Checked.exists_build (h : c.Checked) : ∃ entities, build entities = .ok c := by
  cases h with
  | code h => exact ⟨_, h⟩
  | loaded h =>
    obtain ⟨entities, hbuild, -⟩ := h.exists_build
    exact ⟨entities, hbuild⟩

end Catalog

end DottedQuery
