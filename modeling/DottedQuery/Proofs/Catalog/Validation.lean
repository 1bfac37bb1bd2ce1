/-
# DottedQuery.Proofs.Catalog.Validation -- which entities make a catalog, and what is wrong with others

Entities make a catalog if they have different names, and if every relationship joins a field of its own
entity with a field of an entity of the list, which may be an earlier one, a later one or the same
(`Valid`). Otherwise something is wrong with them, and `FirstFlaw` says what comes first: a name that is
repeated, wherever that is, and only then relationships, in the order of the entities and of the
relationships of each, with the target looked at before the two columns.

Neither speaks of look-ups or of the checks. Building succeeds in the one case, with the entities as they
are, and fails in the other with the flaw that comes first (`build_outcome`).
-/
import DottedQuery.Proofs.Catalog.Build

namespace DottedQuery

/-! ## Names of fields -/

/-- The names of the fields. -/
def Entity.fieldNames (e : Entity) : List String := e.fields.map (·.name)

theorem Entity.exists_field?_iff {e : Entity} {column : String} :
    (∃ f, e.field? column = some f) ↔ column ∈ e.fieldNames := by
  have hnames : e.fieldNames = e.fieldDefs.keys := by
    rw [fieldNames, fields, Dict.values, List.map_map]
    exact List.map_congr_left e.fields_keyed
  rw [hnames, ← Dict.exists_get?_iff]
  rfl

theorem Entity.field?_eq_none_iff {e : Entity} {column : String} :
    e.field? column = none ↔ column ∉ e.fieldNames := by
  rw [← Entity.exists_field?_iff, ← Option.isSome_iff_exists, Option.not_isSome_iff_eq_none]

namespace Catalog

variable {c : Catalog} {entities : List Entity} {e owner : Entity} {r : Relationship}
  {name column : String} {fault : BuildError}

/-! ## Look-ups in a list of entities -/

theorem entity?_eq_none_iff : c.entity? name = none ↔ name ∉ c.entities.map (·.name) := by
  rw [entity?, List.find?_eq_none, List.mem_map]
  simp only [decide_eq_true_eq, not_exists, not_and]

/-- With distinct names, what is found under a name is the entity that bears it. -/
theorem entity?_eq_some_iff (hnames : (c.entities.map (·.name)).Nodup) :
    c.entity? name = some e ↔ e ∈ c.entities ∧ e.name = name := by
  constructor
  · exact fun h => ⟨mem_of_entity? h, name_of_entity? h⟩
  · rintro ⟨he, rfl⟩
    exact entity?_of_mem hnames he

/-! ## What is asked of entities -/

/-- A relationship joins a field of its entity with a field of an entity of the list. -/
structure Joins (entities : List Entity) (e : Entity) (r : Relationship) : Prop where
  source : r.sourceColumn ∈ e.fieldNames
  target : ∃ target ∈ entities, target.name = r.target ∧ r.targetColumn ∈ target.fieldNames

/-- Entities have different names, and all of their relationships join fields. -/
structure Valid (entities : List Entity) : Prop where
  names : (entities.map (·.name)).Nodup
  joins : ∀ e ∈ entities, ∀ r ∈ e.relationships, Joins entities e r

/-- What is wrong with a relationship of an entity: with its target, or else with its own column, or else
with the column of the target. -/
inductive Flaw (entities : List Entity) (e : Entity) (r : Relationship) : BuildError → Prop
  | target (hmissing : r.target ∉ entities.map (·.name)) :
      Flaw entities e r (.unknownTarget e.name r.name r.target)
  | source (htarget : r.target ∈ entities.map (·.name)) (hsource : r.sourceColumn ∉ e.fieldNames) :
      Flaw entities e r (.unknownJoinColumn e.name r.name e.name r.sourceColumn)
  | targetColumn {target : Entity} (hmem : target ∈ entities) (hname : target.name = r.target)
      (hsource : r.sourceColumn ∈ e.fieldNames) (hcolumn : r.targetColumn ∉ target.fieldNames) :
      Flaw entities e r (.unknownJoinColumn e.name r.name target.name r.targetColumn)

/-- What is wrong with entities in the first place. With a repeated name it is the first that was there
before. Without, it is the flaw of the first relationship that has one: all relationships of the
entities before, and those before it in its own entity, join fields. -/
inductive FirstFlaw (entities : List Entity) : BuildError → Prop
  | repeated {before after : List Entity} {e : Entity} (hsplit : entities = before ++ e :: after)
      (hbefore : (before.map (·.name)).Nodup) (hname : e.name ∈ before.map (·.name)) :
      FirstFlaw entities (.duplicateEntity e.name)
  | relationship {before after : List Entity} {e : Entity} {earlier later : List Relationship}
      {r : Relationship} {fault : BuildError} (hnames : (entities.map (·.name)).Nodup)
      (hsplit : entities = before ++ e :: after)
      (hbefore : ∀ other ∈ before, ∀ r ∈ other.relationships, Joins entities other r)
      (hrelationships : e.relationships = earlier ++ r :: later)
      (hearlier : ∀ r ∈ earlier, Joins entities e r) (hflaw : Flaw entities e r fault) :
      FirstFlaw entities fault

/-! ## Repeated names -/

/-- The name that is met again is the first one that was seen before or stands further ahead in the
list. -/
theorem firstRepeated?_eq_some_iff {seen names : List String} :
    firstRepeated? seen names = some name ↔ ∃ before after, names = before ++ name :: after ∧
      before.Nodup ∧ (∀ other ∈ before, other ∉ seen) ∧ (name ∈ seen ∨ name ∈ before) := by
  induction names generalizing seen with
  | nil =>
    refine iff_of_false nofun ?_
    rintro ⟨before, after, hsplit, -⟩
    exact List.append_ne_nil_of_right_ne_nil before (List.cons_ne_nil name after) hsplit.symm
  | cons first names ih =>
    rw [firstRepeated?]
    by_cases hseen : first ∈ seen
    · rw [if_pos hseen, Option.some.injEq]
      constructor
      · rintro rfl
        exact ⟨[], names, rfl, .nil, fun _ h => absurd h List.not_mem_nil, Or.inl hseen⟩
      · rintro ⟨before, after, hsplit, -, hfresh, -⟩
        cases before with
        | nil => exact (List.cons.inj hsplit).1
        | cons other before =>
          obtain ⟨rfl, -⟩ := List.cons.inj hsplit
          exact absurd hseen (hfresh first List.mem_cons_self)
    · rw [if_neg hseen, ih]
      -- what is later compared with the first name among those seen is here compared with it in the list
      constructor
      · rintro ⟨before, after, rfl, hnodup, hfresh, hagain⟩
        refine ⟨first :: before, after, rfl, ?_, ?_, ?_⟩
        · exact List.nodup_cons.mpr ⟨fun h => hfresh first h List.mem_cons_self, hnodup⟩
        · refine List.forall_mem_cons.mpr ⟨hseen, fun other hother hold => ?_⟩
          exact hfresh other hother (List.mem_cons_of_mem _ hold)
        · rcases hagain with hagain | hagain
          · rcases List.mem_cons.mp hagain with rfl | hold
            · exact Or.inr List.mem_cons_self
            · exact Or.inl hold
          · exact Or.inr (List.mem_cons_of_mem _ hagain)
      · rintro ⟨before, after, hsplit, hnodup, hfresh, hagain⟩
        cases before with
        | nil =>
          obtain ⟨rfl, -⟩ := List.cons.inj hsplit
          exact absurd (hagain.resolve_right List.not_mem_nil) hseen
        | cons other before =>
          obtain ⟨rfl, rfl⟩ := List.cons.inj hsplit
          obtain ⟨hfirst, hnodup⟩ := List.nodup_cons.mp hnodup
          obtain ⟨-, hfresh⟩ := List.forall_mem_cons.mp hfresh
          refine ⟨before, after, rfl, hnodup, fun other hother hold => ?_, ?_⟩
          · rcases List.mem_cons.mp hold with rfl | hold
            · exact hfirst hother
            · exact hfresh other hother hold
          · rcases hagain with hold | hagain
            · exact Or.inl (List.mem_cons_of_mem _ hold)
            · rcases List.mem_cons.mp hagain with rfl | hagain
              · exact Or.inl List.mem_cons_self
              · exact Or.inr hagain

/-! ## Checks -/

theorem checkColumn_eq_error_iff : checkColumn e r owner column = .error fault ↔
    column ∉ owner.fieldNames ∧ fault = .unknownJoinColumn e.name r.name owner.name column := by
  rw [← Entity.field?_eq_none_iff, checkColumn]
  cases owner.field? column with
  | none => exact ⟨fun h => ⟨rfl, (Except.error.inj h).symm⟩, fun h => congrArg _ h.2.symm⟩
  | some f => exact iff_of_false nofun fun h => nomatch h.1

theorem checkColumn_eq_ok_iff_mem :
    checkColumn e r owner column = .ok () ↔ column ∈ owner.fieldNames :=
  checkColumn_eq_ok_iff.trans Entity.exists_field?_iff

/-- A relationship passes its check exactly if it joins fields. -/
theorem checkRelationship_eq_ok_iff_joins (hnames : (entities.map (·.name)).Nodup) :
    checkRelationship ⟨entities⟩ e r = .ok () ↔ Joins entities e r := by
  simp only [checkRelationship_eq_ok_iff, Entity.exists_field?_iff,
    entity?_eq_some_iff (c := ⟨entities⟩) hnames]
  constructor
  · rintro ⟨target, ⟨hmem, hname⟩, hsource, hcolumn⟩
    exact ⟨hsource, target, hmem, hname, hcolumn⟩
  · rintro ⟨hsource, target, hmem, hname, hcolumn⟩
    exact ⟨target, ⟨hmem, hname⟩, hsource, hcolumn⟩

/-- A relationship fails its check exactly with what is wrong with it. -/
theorem checkRelationship_eq_error_iff (hnames : (entities.map (·.name)).Nodup) :
    checkRelationship ⟨entities⟩ e r = .error fault ↔ Flaw entities e r fault := by
  unfold checkRelationship
  cases htarget : entity? ⟨entities⟩ r.target with
  | none =>
    have hmissing : r.target ∉ entities.map (·.name) := entity?_eq_none_iff.mp htarget
    rw [Except.error.injEq]
    constructor
    · rintro rfl
      exact .target hmissing
    · intro h
      cases h with
      | target _ => rfl
      | source hlisted _ => exact absurd hlisted hmissing
      | targetColumn hmem hname _ _ => exact absurd (hname ▸ List.mem_map_of_mem hmem) hmissing
  | some target =>
    obtain ⟨hmem, hname⟩ := (entity?_eq_some_iff (c := ⟨entities⟩) hnames).mp htarget
    have hlisted : r.target ∈ entities.map (·.name) := hname ▸ List.mem_map_of_mem hmem
    show (checkColumn e r e r.sourceColumn >>= fun _ => checkColumn e r target r.targetColumn) =
      .error fault ↔ _
    rw [bind_eq_error]
    simp only [checkColumn_eq_error_iff]
    constructor
    · rintro (⟨hsource, rfl⟩ | ⟨⟨⟩, hsource, hcolumn, rfl⟩)
      · exact .source hlisted hsource
      · exact .targetColumn hmem hname (checkColumn_eq_ok_iff_mem.mp hsource) hcolumn
    · intro h
      cases h with
      | target hmissing => exact absurd hlisted hmissing
      | source _ hsource => exact Or.inl ⟨hsource, rfl⟩
      | targetColumn hmem' hname' hsource hcolumn =>
        obtain rfl := List.inj_on_of_nodup_map hnames hmem' hmem (hname'.trans hname.symm)
        exact Or.inr ⟨(), checkColumn_eq_ok_iff_mem.mpr hsource, hcolumn, rfl⟩

/-- An entity passes its check exactly if all of its relationships join fields. -/
theorem checkEntity_eq_ok_iff (hnames : (entities.map (·.name)).Nodup) :
    checkEntity ⟨entities⟩ e = .ok () ↔ ∀ r ∈ e.relationships, Joins entities e r := by
  simp only [checkEntity, forM_eq_ok, checkRelationship_eq_ok_iff_joins hnames]

/-- An entity fails its check with what is wrong with the first relationship that does not join fields. -/
theorem checkEntity_eq_error_iff (hnames : (entities.map (·.name)).Nodup) :
    checkEntity ⟨entities⟩ e = .error fault ↔ ∃ earlier r later,
      e.relationships = earlier ++ r :: later ∧ (∀ r ∈ earlier, Joins entities e r) ∧
        Flaw entities e r fault := by
  simp only [checkEntity, forM_eq_error, checkRelationship_eq_ok_iff_joins hnames,
    checkRelationship_eq_error_iff hnames]

/-! ## Building -/

theorem build_eq_ok_iff_valid : build entities = .ok c ↔ c = ⟨entities⟩ ∧ Valid entities := by
  rw [build_eq_ok_iff]
  refine and_congr_right fun _ => ⟨fun ⟨hnames, hchecks⟩ => ⟨hnames, fun e he => ?_⟩, fun h =>
    ⟨h.names, fun e he => ?_⟩⟩
  · exact (checkEntity_eq_ok_iff hnames).mp (hchecks e he)
  · exact (checkEntity_eq_ok_iff h.names).mpr (h.joins e he)

/-- Building fails with a repeated name exactly if this is the first that is repeated. -/
theorem firstRepeated?_eq_some_iff_split :
    firstRepeated? [] (entities.map (·.name)) = some name ↔ ∃ before e after,
      entities = before ++ e :: after ∧ (before.map (·.name)).Nodup ∧
        e.name ∈ before.map (·.name) ∧ e.name = name := by
  rw [firstRepeated?_eq_some_iff]
  constructor
  · rintro ⟨names, others, hsplit, hnodup, -, hagain⟩
    obtain ⟨before, rest, rfl, rfl, hrest⟩ := List.map_eq_append_iff.mp hsplit
    obtain ⟨e, after, rfl, rfl, -⟩ := List.map_eq_cons_iff.mp hrest
    exact ⟨before, e, after, rfl, hnodup, hagain.resolve_left List.not_mem_nil, rfl⟩
  · rintro ⟨before, e, after, rfl, hnodup, hagain, rfl⟩
    refine ⟨before.map (·.name), after.map (·.name), ?_, hnodup, fun _ _ => List.not_mem_nil,
      Or.inr hagain⟩
    rw [List.map_append, List.map_cons]

/-- If a name is repeated, that is the first flaw. -/
theorem firstFlaw_of_repeated (h : firstRepeated? [] (entities.map (·.name)) = some name) :
    FirstFlaw entities fault ↔ fault = .duplicateEntity name := by
  constructor
  · intro hflaw
    cases hflaw with
    | repeated hsplit hbefore hagain =>
      have hrepeated := firstRepeated?_eq_some_iff_split.mpr ⟨_, _, _, hsplit, hbefore, hagain, rfl⟩
      rw [Option.some.inj (hrepeated.symm.trans h)]
    | relationship hnames _ _ _ _ _ =>
      have hnone := firstRepeated?_eq_none_iff.mpr ⟨hnames, fun _ _ => List.not_mem_nil⟩
      rw [h] at hnone
      cases hnone
  · rintro rfl
    obtain ⟨before, e, after, hsplit, hbefore, hagain, rfl⟩ := firstRepeated?_eq_some_iff_split.mp h
    exact .repeated hsplit hbefore hagain

/-- If no name is repeated, the first flaw is that of a relationship. -/
theorem firstFlaw_of_nodup (hnames : (entities.map (·.name)).Nodup) :
    FirstFlaw entities fault ↔ ∃ before e after, entities = before ++ e :: after ∧
      (∀ other ∈ before, ∀ r ∈ other.relationships, Joins entities other r) ∧ ∃ earlier r later,
        e.relationships = earlier ++ r :: later ∧ (∀ r ∈ earlier, Joins entities e r) ∧
          Flaw entities e r fault := by
  constructor
  · intro hflaw
    cases hflaw with
    | @repeated before after e hsplit _ hagain =>
      rw [hsplit, List.map_append, List.map_cons, List.nodup_middle, List.nodup_cons] at hnames
      exact absurd (List.mem_append_left _ hagain) hnames.1
    | relationship _ hsplit hbefore hr hearlier hflaw =>
      exact ⟨_, _, _, hsplit, hbefore, _, _, _, hr, hearlier, hflaw⟩
  · rintro ⟨before, e, after, hsplit, hbefore, earlier, r, later, hr, hearlier, hflaw⟩
    exact .relationship hnames hsplit hbefore hr hearlier hflaw

/-- Building fails exactly with the flaw that comes first. -/
theorem build_eq_error_iff : build entities = .error fault ↔ FirstFlaw entities fault := by
  unfold build
  cases hrepeated : firstRepeated? [] (entities.map (·.name)) with
  | some name =>
    rw [firstFlaw_of_repeated hrepeated, Except.error.injEq]
    exact eq_comm
  | none =>
    have hnames := (firstRepeated?_eq_none_iff.mp hrepeated).1
    rw [bind_eq_error, forM_eq_error, firstFlaw_of_nodup hnames]
    simp only [checkEntity_eq_ok_iff hnames, checkEntity_eq_error_iff hnames]
    exact or_iff_left fun ⟨_, _, h⟩ => pure_ne_error h

/-- Building succeeds exactly where the entities are valid. The catalog has the entities as they were given, in
their order, each found under its name and nothing else. Otherwise building fails, with the flaw that
comes first. -/
theorem build_outcome (entities : List Entity) :
    (∀ c, build entities = .ok c ↔ c = ⟨entities⟩ ∧ Valid entities) ∧
      (∀ fault, build entities = .error fault ↔ FirstFlaw entities fault) ∧
      ∀ c, build entities = .ok c → c.entities = entities ∧
        ∀ name e, c.entity? name = some e ↔ e ∈ entities ∧ e.name = name := by
  refine ⟨fun c => build_eq_ok_iff_valid, fun fault => build_eq_error_iff, fun c hc => ?_⟩
  obtain ⟨rfl, hvalid⟩ := build_eq_ok_iff_valid.mp hc
  exact ⟨rfl, fun name e => entity?_eq_some_iff hvalid.names⟩

end Catalog

namespace Loans

/-- Books, each on a shelf that is described after them. -/
def book : Entity :=
  ((Entity.ofName "book").addField "id" .integer
    |>.addField "shelf_id" .integer).addLink "shelf" ⟨"shelf", "shelf_id", "id", .one⟩

/-- Shelves, with the books that name them in some column. -/
def shelf (column : String) : Entity :=
  ((Entity.ofName "shelf").addField "id" .integer).addLink "books" ⟨"book", "id", column, .many⟩

/-- With the right column there is a catalog, with the wrong one that column is at fault, and if books are
described twice, this comes before. -/
theorem build_outcome_books : Catalog.Valid [book, shelf "shelf_id"] ∧
    Catalog.FirstFlaw [book, shelf "shelf"] (.unknownJoinColumn "shelf" "books" "book" "shelf") ∧
    Catalog.FirstFlaw [book, shelf "shelf", book] (.duplicateEntity "book") ∧
    ∃ c, Catalog.build [book, shelf "shelf_id"] = .ok c ∧ c.entities = [book, shelf "shelf_id"] := by
  obtain ⟨hok, -, hentities⟩ := Catalog.build_outcome [book, shelf "shelf_id"]
  obtain ⟨-, hcolumn, -⟩ := Catalog.build_outcome [book, shelf "shelf"]
  obtain ⟨-, htwice, -⟩ := Catalog.build_outcome [book, shelf "shelf", book]
  have hbuild : Catalog.build [book, shelf "shelf_id"] = .ok ⟨[book, shelf "shelf_id"]⟩ := rfl
  exact ⟨((hok _).mp hbuild).2, (hcolumn _).mp rfl, (htwice _).mp rfl, _, hbuild,
    (hentities _ hbuild).1⟩

end Loans

end DottedQuery
