/-
# DottedQuery.Proofs.Catalog.Rearrangement -- the order of a catalog file does not matter

Formats differ in the order in which they hand over what is written under names: one keeps the order of the
text, the other sorts. A catalog is asked for names only. So two files that differ in the order of their
entities, of the fields and of the relationships of each make a catalog both or neither, and then the two
catalogs answer every look-up alike and plan every query alike, down to the numbers of the joined tables
and to the faults (`plan_eq_of_rearranged`).

That the files build both or neither is read off what a list of entities has to be (`Valid`), which does
not mention an order. What is planned goes through look-ups only, one step after the other; two catalogs
with the same look-ups take the same steps (`Catalog.Alike.plan_eq`).
-/
import DottedQuery.Plan.Basic
import DottedQuery.Proofs.Catalog.Making
import DottedQuery.Proofs.Catalog.Validation
import DottedQuery.Proofs.Pairing

namespace DottedQuery

/-- What is found does not depend on the order of the entries. -/
theorem Dict.get?_eq_of_perm {α : Type} {d d' : Dict α} (h : d.entries.Perm d'.entries)
    (key : String) : d.get? key = d'.get? key := by
  refine Option.ext fun value => ?_
  rw [Dict.get?_eq_some_iff, Dict.get?_eq_some_iff, h.mem_iff]

/-! ## Entities -/

/-- Entities that differ at most in the order of their fields and of their relationships. -/
structure Entity.Alike (e e' : Entity) : Prop where
  name : e.name = e'.name
  table : e.table = e'.table
  fields : e.fieldDefs.entries.Perm e'.fieldDefs.entries
  edges : e.edges.entries.Perm e'.edges.entries

namespace Entity.Alike

variable {e e' : Entity}

theorem symm (h : e.Alike e') : e'.Alike e where
  name := h.name.symm
  table := h.table.symm
  fields := h.fields.symm
  edges := h.edges.symm

theorem tableName_eq (h : e.Alike e') : e.tableName = e'.tableName := by
  rw [Entity.tableName, Entity.tableName, h.name, h.table]

theorem field?_eq (h : e.Alike e') (name : String) : e.field? name = e'.field? name := by
  rw [Entity.field?, Entity.field?, Dict.get?_eq_of_perm h.fields]

theorem relationship?_eq (h : e.Alike e') (name : String) :
    e.relationship? name = e'.relationship? name := by
  rw [Entity.relationship?, Entity.relationship?, Dict.get?_eq_of_perm h.edges]

theorem mem_fieldNames (h : e.Alike e') {column : String} :
    column ∈ e.fieldNames ↔ column ∈ e'.fieldNames := by
  rw [← Entity.exists_field?_iff, ← Entity.exists_field?_iff, h.field?_eq]

theorem mem_relationships (h : e.Alike e') {r : Relationship} (hr : r ∈ e.relationships) :
    r ∈ e'.relationships := by
  have hfound := Entity.relationship?_of_mem hr
  rw [h.relationship?_eq] at hfound
  exact Entity.mem_relationships hfound

end Entity.Alike

namespace Catalog

variable {c c' : Catalog} {e e' : Entity} {names : List String} {path : FieldPath} {r : Relationship}

/-! ## Look-ups -/

/-- Catalogs that find nothing, or entities that are alike, under every name. -/
def Alike (c c' : Catalog) : Prop :=
  ∀ name, Option.Rel Entity.Alike (c.entity? name) (c'.entity? name)

namespace Alike

/-- Under a name, both find nothing, or both find entities that are alike. -/
theorem entity?_cases (h : c.Alike c') (name : String) :
    (c.entity? name = none ∧ c'.entity? name = none) ∨
      ∃ e e', c.entity? name = some e ∧ c'.entity? name = some e' ∧ e.Alike e' := by
  have hrel := h name
  generalize c.entity? name = found at hrel ⊢
  generalize c'.entity? name = found' at hrel ⊢
  cases hrel with
  | none => exact Or.inl ⟨rfl, rfl⟩
  | some halike => exact Or.inr ⟨_, _, rfl, rfl, halike⟩

theorem relationship?_eq (h : c.Alike c') (entity name : String) :
    c.relationship? entity name = c'.relationship? entity name := by
  unfold Catalog.relationship?
  rcases h.entity?_cases entity with ⟨hc, hc'⟩ | ⟨e, e', hc, hc', halike⟩
  · rw [hc, hc']
  · rw [hc, hc']
    exact halike.relationship?_eq name

theorem field?_eq (h : c.Alike c') (entity name : String) :
    c.field? entity name = c'.field? entity name := by
  unfold Catalog.field?
  rcases h.entity?_cases entity with ⟨hc, hc'⟩ | ⟨e, e', hc, hc', halike⟩
  · rw [hc, hc']
  · rw [hc, hc']
    exact halike.field?_eq name

theorem tableOf_eq (h : c.Alike c') (entity : String) : c.tableOf entity = c'.tableOf entity := by
  unfold tableOf
  rcases h.entity?_cases entity with ⟨hc, hc'⟩ | ⟨e, e', hc, hc', halike⟩
  · rw [hc, hc']
  · rw [hc, hc', Option.map_some, Option.map_some, halike.tableName_eq]

/-! ## Planning -/

theorem requireEntity (h : c.Alike c') (name : String) :
    SameOutcome Entity.Alike (c.requireEntity name) (c'.requireEntity name) := by
  unfold Catalog.requireEntity
  rcases h.entity?_cases name with ⟨hc, hc'⟩ | ⟨e, e', hc, hc', halike⟩
  · rw [hc, hc']
    exact .error _
  · rw [hc, hc']
    exact .ok halike

/-- Names are followed over the same relationships, to entities that are alike. -/
theorem follow (h : c.Alike c') (path : FieldPath) (halike : e.Alike e') (names : List String) :
    SameOutcome (fun found found' => found.1 = found'.1 ∧ found.2.Alike found'.2)
      (c.follow path e names) (c'.follow path e' names) := by
  induction names generalizing e e' with
  | nil => exact .ok ⟨rfl, halike⟩
  | cons name names ih =>
    rw [Catalog.follow, Catalog.follow, h.relationship?_eq, halike.name]
    cases c'.relationship? e'.name name with
    | none => exact .error _
    | some edge =>
      refine (h.requireEntity edge.target).bind fun target target' htarget => ?_
      refine (ih htarget).bind fun found found' hfound => ?_
      exact .ok ⟨congrArg (edge :: ·) hfound.1, hfound.2⟩

/-- A path resolves over the same relationships to the same field. -/
theorem resolve (h : c.Alike c') (root : String) (path : FieldPath) :
    SameOutcome (fun r r' => r.path = r'.path ∧ r.hops = r'.hops ∧ r.entity.Alike r'.entity ∧
      r.field = r'.field) (c.resolve root path) (c'.resolve root path) := by
  refine (h.requireEntity root).bind fun start start' hstart => ?_
  refine (h.follow path hstart path.relationships).bind fun ⟨hops, last⟩ ⟨hops', last'⟩ hfound => ?_
  obtain ⟨rfl, hlast⟩ : hops = hops' ∧ last.Alike last' := hfound
  simp only [h.field?_eq, hlast.name]
  cases c'.field? last'.name path.field with
  | none => exact .error _
  | some field => exact .ok ⟨rfl, rfl, hlast, rfl⟩

/-- What resolved over the same relationships to the same field is placed alike. -/
theorem place_eq (h : c.Alike c') (t : JoinTree) {r r' : Resolution} (hhops : r.hops = r'.hops)
    (hfield : r.field = r'.field) : c.place t r = c'.place t r' := by
  have htable : c.tableOf = c'.tableOf := funext h.tableOf_eq
  unfold place
  rw [htable, hhops, hfield]

theorem planField_eq (h : c.Alike c') (root : String) (t : JoinTree) (field : FieldSpec) :
    c.planField root t field = c'.planField root t field := by
  refine ((h.resolve root field.path).bind fun r r' ⟨hpath, hhops, _, hfield⟩ => ?_).eq
  rw [h.place_eq t hhops hfield, hpath, hfield]
  exact .ok rfl

theorem planFilter_eq (h : c.Alike c') (root : String) (t : JoinTree) (filter : FilterSpec) :
    c.planFilter root t filter = c'.planFilter root t filter := by
  refine ((h.resolve root filter.path).bind fun r r' ⟨hpath, hhops, _, hfield⟩ => ?_).eq
  rw [h.place_eq t hhops hfield, hpath, hfield]
  exact .refl (fun _ => rfl) _

/-- Catalogs with the same look-ups plan every query alike. -/
theorem plan_eq (h : c.Alike c') (spec : QuerySpec) : c.plan spec = c'.plan spec := by
  have hfields : c.planField spec.table = c'.planField spec.table :=
    funext₂ (h.planField_eq spec.table)
  have hfilters : c.planFilter spec.table = c'.planFilter spec.table :=
    funext₂ (h.planFilter_eq spec.table)
  unfold plan
  rw [hfields, hfilters]
  split
  · rfl
  · refine ((h.requireEntity spec.table).bind fun start start' hstart => ?_).eq
    rw [hstart.name, hstart.tableName_eq]
    exact .refl (fun _ => rfl) _

end Alike

/-! ## Files -/

/-- Entries that describe an entity alike, with its fields and relationships in whatever order. -/
structure EntityEntry.Rearranged (entry entry' : EntityEntry) : Prop where
  table : entry.table = entry'.table
  fields : entry.fields.entries.Perm entry'.fields.entries
  relationships : entry.relationships.entries.Perm entry'.relationships.entries

/-- Files that differ in the order of their entities and in the order within each. -/
def Rearranged (f g : Dict EntityEntry) : Prop :=
  ∃ moved, f.entries.Perm moved ∧
    List.Forall₂ (fun x y => x.1 = y.1 ∧ x.2.Rearranged y.2) moved g.entries

variable {f g : Dict EntityEntry} {entities entities' : List Entity}

namespace EntityEntry

theorem name_toEntity (entry : EntityEntry) (name : String) : (entry.toEntity name).name = name := by
  rw [toEntity_eq, Entity.name_addLinks, Entity.name_addFields]
  rfl

theorem table_toEntity (entry : EntityEntry) (name : String) :
    (entry.toEntity name).table = entry.table := by
  rw [toEntity_eq, Entity.table_addLinks, Entity.table_addFields]

/-- The names of the fields of an entry are distinct, so its entity has all of them. -/
theorem entries_fieldDefs_toEntity (entry : EntityEntry) (name : String) :
    (entry.toEntity name).fieldDefs.entries =
      entry.fields.entries.map fun field => (field.1, ⟨field.1, field.2⟩) := by
  rw [toEntity_eq, Entity.fieldDefs_addLinks, Entity.fieldDefs_addFields rfl, Dict.entries_ofList]
  rw [List.map_map]
  exact entry.fields.distinct

/-- Likewise for its relationships, which lead away from the entity. -/
theorem entries_edges_toEntity (entry : EntityEntry) (name : String) :
    (entry.toEntity name).edges.entries = entry.relationships.entries.map fun link =>
      (link.1, (Entity.ofName name).relationshipOf link.1 link.2) := by
  rw [toEntity_eq, Entity.edges_addLinks (Entity.edges_addFields _ _), Dict.entries_ofList]
  · refine List.map_congr_left fun link _ => ?_
    rw [Entity.relationshipOf, Entity.name_addFields]
    rfl
  · rw [List.map_map]
    exact entry.relationships.distinct

theorem Rearranged.toEntity {entry entry' : EntityEntry} (h : entry.Rearranged entry')
    (name : String) : (entry.toEntity name).Alike (entry'.toEntity name) where
  name := by rw [name_toEntity, name_toEntity]
  table := by rw [table_toEntity, table_toEntity, h.table]
  fields := by
    rw [entries_fieldDefs_toEntity, entries_fieldDefs_toEntity]
    exact h.fields.map _
  edges := by
    rw [entries_edges_toEntity, entries_edges_toEntity]
    exact h.relationships.map _

end EntityEntry

/-- Every entity of one list has one that is alike in the other. -/
structure Matched (entities entities' : List Entity) : Prop where
  left : ∀ e ∈ entities, ∃ e' ∈ entities', e.Alike e'
  right : ∀ e' ∈ entities', ∃ e ∈ entities, e.Alike e'

theorem Matched.symm (h : Matched entities entities') : Matched entities' entities where
  left e he := (h.right e he).imp fun _ ⟨hmem, halike⟩ => ⟨hmem, halike.symm⟩
  right e he := (h.left e he).imp fun _ ⟨hmem, halike⟩ => ⟨hmem, halike.symm⟩

/-- Files that differ in their order describe entities that match. -/
theorem Rearranged.matched (h : Rearranged f g) : Matched (entitiesOf f) (entitiesOf g) := by
  obtain ⟨moved, hperm, hpairs⟩ := h
  constructor
  · intro e he
    obtain ⟨x, hx, rfl⟩ := List.mem_map.mp he
    obtain ⟨y, hy, hname, halike⟩ := exists_partner hpairs.flip (hperm.mem_iff.mp hx)
    exact ⟨_, List.mem_map_of_mem hy, hname ▸ halike.toEntity x.1⟩
  · intro e he
    obtain ⟨y, hy, rfl⟩ := List.mem_map.mp he
    obtain ⟨x, hx, hname, halike⟩ := exists_partner hpairs hy
    exact ⟨_, List.mem_map_of_mem (hperm.mem_iff.mpr hx), hname ▸ halike.toEntity x.1⟩

/-- The entities of a file have different names. -/
theorem nodup_entitiesOf (f : Dict EntityEntry) : ((entitiesOf f).map (·.name)).Nodup := by
  rw [entitiesOf, List.map_map]
  have hnames : f.entries.map ((·.name) ∘ fun entry => entry.2.toEntity entry.1) = f.keys :=
    List.map_congr_left fun entry _ => entry.2.name_toEntity entry.1
  rw [hnames]
  exact f.distinct

/-- A relationship that joins fields of listed entities joins fields of entities that match them. -/
theorem Matched.joins (h : Matched entities entities') (halike : e.Alike e')
    (hjoins : Joins entities e r) : Joins entities' e' r := by
  obtain ⟨target, hmem, hname, hcolumn⟩ := hjoins.target
  obtain ⟨target', hmem', htarget⟩ := h.left target hmem
  exact ⟨halike.mem_fieldNames.mp hjoins.source, target', hmem', htarget.name.symm.trans hname,
    htarget.mem_fieldNames.mp hcolumn⟩

/-- What has a valid match is valid if its names are distinct. -/
theorem Matched.valid (h : Matched entities entities') (hnames : (entities'.map (·.name)).Nodup)
    (hvalid : Valid entities) : Valid entities' where
  names := hnames
  joins := by
    intro e' he' r hr
    obtain ⟨e, he, halike⟩ := h.right e' he'
    exact h.joins halike (hvalid.joins e he r (halike.symm.mem_relationships hr))

/-- Catalogs of entities that match find the same if none is hidden behind another of its name. -/
theorem Matched.alike (h : Matched entities entities') (hnames : (entities'.map (·.name)).Nodup) :
    Alike ⟨entities⟩ ⟨entities'⟩ := by
  intro name
  cases hfound : entity? ⟨entities⟩ name with
  | none =>
    cases hfound' : entity? ⟨entities'⟩ name with
    | none => exact .none
    | some e' =>
      obtain ⟨e, he, halike⟩ := h.right e' (mem_of_entity? hfound')
      have hname : e.name = name := halike.name.trans (name_of_entity? hfound')
      have hmissing : name ∉ entities.map (·.name) := entity?_eq_none_iff.mp hfound
      exact absurd (hname ▸ List.mem_map_of_mem he) hmissing
  | some e =>
    obtain ⟨e', he', halike⟩ := h.left e (mem_of_entity? hfound)
    have hname : e'.name = name := halike.name.symm.trans (name_of_entity? hfound)
    have hfound' : entity? ⟨entities'⟩ name = some e' :=
      (entity?_eq_some_iff (c := ⟨entities'⟩) hnames).mpr ⟨he', hname⟩
    rw [hfound']
    exact .some halike

/-- Files that differ in their order make a catalog both or neither. If they do, both catalogs find the
same under every name and plan every query alike. -/
theorem plan_eq_of_rearranged (h : Rearranged f g) :
    ((∃ c, build (entitiesOf f) = .ok c) ↔ ∃ c', build (entitiesOf g) = .ok c') ∧
      ∀ c c', build (entitiesOf f) = .ok c → build (entitiesOf g) = .ok c' →
        (∀ name, Option.Rel Entity.Alike (c.entity? name) (c'.entity? name)) ∧
          (∀ entity name, c.relationship? entity name = c'.relationship? entity name) ∧
          (∀ entity name, c.field? entity name = c'.field? entity name) ∧
          (∀ entity name, c.hasField entity name = c'.hasField entity name) ∧
          ∀ spec, c.plan spec = c'.plan spec := by
  have hmatched := h.matched
  have hf := nodup_entitiesOf f
  have hg := nodup_entitiesOf g
  refine ⟨⟨fun ⟨c, hc⟩ => ?_, fun ⟨c', hc'⟩ => ?_⟩, fun c c' hc hc' => ?_⟩
  · have hvalid := (build_eq_ok_iff_valid.mp hc).2
    exact ⟨_, build_eq_ok_iff_valid.mpr ⟨rfl, hmatched.valid hg hvalid⟩⟩
  · have hvalid := (build_eq_ok_iff_valid.mp hc').2
    exact ⟨_, build_eq_ok_iff_valid.mpr ⟨rfl, hmatched.symm.valid hf hvalid⟩⟩
  · obtain ⟨rfl, -⟩ := build_eq_ok_iff_valid.mp hc
    obtain ⟨rfl, -⟩ := build_eq_ok_iff_valid.mp hc'
    have halike := hmatched.alike hg
    refine ⟨halike, halike.relationship?_eq, halike.field?_eq, fun entity name => ?_, halike.plan_eq⟩
    rw [hasField, hasField, halike.field?_eq]

end Catalog

namespace Jukebox

open Catalog (EntityEntry)

def toArtist : Link := ⟨"artist", "artist_id", "id", .one⟩
def toLabel : Link := ⟨"artist", "label_id", "id", .one⟩
def toSongs : Link := ⟨"song", "id", "artist_id", .many⟩

def artist : EntityEntry where
  fields := ⟨[("id", .integer)], by decide⟩
  relationships := ⟨[("songs", toSongs)], by decide⟩

/-- Songs with a label and their artist, who come after them. -/
def written : Dict EntityEntry where
  entries :=
    [("song",
      { fields := ⟨[("label_id", .integer), ("artist_id", .integer)], by decide⟩
        relationships := ⟨[("label", toLabel), ("artist", toArtist)], by decide⟩ }),
    ("artist", artist)]
  distinct := by decide

/-- The same, in the order of the names. -/
def sorted : Dict EntityEntry where
  entries :=
    [("artist", artist),
    ("song",
      { fields := ⟨[("artist_id", .integer), ("label_id", .integer)], by decide⟩
        relationships := ⟨[("artist", toArtist), ("label", toLabel)], by decide⟩ })]
  distinct := by decide

/-- Both make a catalog, and the catalogs plan alike. -/
theorem plan_eq_of_rearranged_songs : Catalog.Rearranged written sorted ∧
    ∃ c c', Catalog.build (Catalog.entitiesOf written) = .ok c ∧
      Catalog.build (Catalog.entitiesOf sorted) = .ok c' ∧ ∀ spec, c.plan spec = c'.plan spec := by
  have h : Catalog.Rearranged written sorted := by
    refine ⟨_, List.Perm.swap _ _ [], .cons ⟨rfl, ?_⟩ (.cons ⟨rfl, ?_⟩ .nil)⟩
    · exact ⟨rfl, .refl _, .refl _⟩
    · exact ⟨rfl, .swap _ _ [], .swap _ _ []⟩
  obtain ⟨hboth, hsame⟩ := Catalog.plan_eq_of_rearranged h
  obtain ⟨c', hc'⟩ := hboth.mp ⟨⟨Catalog.entitiesOf written⟩, rfl⟩
  obtain ⟨-, -, -, -, hplan⟩ := hsame _ c' rfl hc'
  exact ⟨h, _, c', rfl, hc', hplan⟩

end Jukebox

end DottedQuery
