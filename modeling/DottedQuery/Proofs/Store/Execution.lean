/-
# DottedQuery.Proofs.Store.Execution -- executing a plan answers its query

What executing a plan gives is told in terms of the query, the catalog and the records alone. With
inner joins there is one row for each choice of linked records that meets all filters
(`execute_inner`); with left joins chains without partner stay empty, every record of the root keeps a
row unless a filter drops it, and the rows without an empty chain are those of inner joins
(`execute_left`). The value at a path is that of the record reached by walking along its names.

A statement takes a limited number of tables. Beyond the limit the answer is the refusal, whatever the
records are. The database's limits on other parts of a statement are not modelled (`Store.Answer` names
them), so what is said here is said of statements within them. All that is asked of the database is that
it has the tables and columns; whether the catalog was built does not matter.
-/
import DottedQuery.Proofs.Staff
import DottedQuery.Proofs.Store.Rows

namespace DottedQuery

open Store (tableLimit)

variable {c : Catalog} {db : Store.Database} {g : RecordGraph} {spec : QuerySpec} {p : Plan}
  {start e target : Entity} {σ : Choice} {route : List String} {name : String}

/-! ## Walking from record to record -/

theorem Catalog.walk?_append (names names' : List String) :
    c.walk? e (names ++ names') = (c.walk? e names).bind fun mid => c.walk? mid names' := by
  induction names generalizing e with
  | nil => rfl
  | cons name names ih =>
    rw [List.cons_append, walk?, walk?, Option.bind_assoc]
    refine congrArg (Option.bind _) (funext fun edge => ?_)
    rw [Option.bind_assoc]
    exact congrArg (Option.bind _) (funext fun target => ih)

namespace RecordGraph

/-- The entity one name further is the target of the relationship of this name. -/
theorem target_of_entityAt? {edge : Relationship} (he : g.entityAt? route = some e)
    (hedge : e.relationship? name = some edge) (htarget : g.entityAt? (route ++ [name]) = some target) :
    g.catalog.entity? edge.target = some target := by
  obtain ⟨start, hstart, hwalk⟩ := Option.bind_eq_some_iff.mp he
  rw [entityAt?, hstart, Option.bind_some, Catalog.walk?_append, hwalk, Option.bind_some] at htarget
  rw [Catalog.walk?, hedge, Option.bind_some] at htarget
  obtain ⟨target', htarget', hhere⟩ := Option.bind_eq_some_iff.mp htarget
  cases hhere
  exact htarget'

theorem mem_partners {record partner : Nat} : partner ∈ g.partners route name record ↔
    ∃ e edge target, g.entityAt? route = some e ∧ e.relationship? name = some edge ∧
      g.entityAt? (route ++ [name]) = some target ∧ partner < (g.rows target).length ∧
      g.linked e edge target record partner = true := by
  unfold partners
  constructor
  · intro h
    split at h
    · rename_i edge e target hedge he htarget
      rw [he, Option.bind_some] at hedge
      obtain ⟨hpartner, hlinked⟩ := List.mem_filter.mp h
      exact ⟨e, edge, target, he, hedge, htarget, List.mem_range.mp hpartner, hlinked⟩
    · exact absurd h List.not_mem_nil
  · rintro ⟨e, edge, target, he, hedge, htarget, hpartner, hlinked⟩
    rw [he, htarget, Option.bind_some, hedge]
    exact List.mem_filter.mpr ⟨List.mem_range.mpr hpartner, hlinked⟩

theorem Walks.choice_eq {record : Nat} (h : g.Walks σ route e record) : σ route = some record := by
  cases h with
  | root _ _ hσ => exact hσ
  | cross _ _ _ _ _ hσ => exact hσ

/-- Every record of an inner choice is reached by walking from the root: the record one name before
is, and the two are linked. -/
theorem Inner.walks (h : Inner g spec σ) (hroute : route ∈ spec.routes)
    (he : g.entityAt? route = some e) : ∃ record, g.Walks σ route e record := by
  induction route using List.reverseRecOn generalizing e with
  | nil =>
    obtain ⟨record, hrecord, hσ⟩ := h.root
    obtain ⟨start, hstart, hhere⟩ := Option.bind_eq_some_iff.mp he
    cases hhere
    rw [rowsAt, he, Option.map_some, Option.getD_some] at hrecord
    exact ⟨record, .root hstart hrecord hσ⟩
  | append_singleton route name ih =>
    obtain ⟨record, partner, hσ, hpartner, hσ'⟩ := h.linked route name hroute
    obtain ⟨source, edge, target, hsource, hedge, htarget, hlt, hlinked⟩ := mem_partners.mp hpartner
    rw [he] at htarget
    cases htarget
    have hbefore : route ∈ spec.routes :=
      QuerySpec.mem_routes_of_prefix (List.prefix_append _ _) hroute
    -- the record that was walked to is the one the choice has, so it is the one that is linked
    obtain ⟨record', hwalk⟩ := ih hbefore hsource
    have hrecord : record' = record := Option.some.inj (hwalk.choice_eq.symm.trans hσ)
    obtain rfl : edge.name = name := Entity.name_of_relationship? hedge
    exact ⟨partner, .cross hwalk hedge (target_of_entityAt? hsource hedge he) hlt
      (hrecord ▸ hlinked) hσ'⟩

/-- The value at a path is the field of the record that is reached along its relationships. -/
theorem value_of_walks {path : FieldPath} {record : Nat} {f : Field}
    (hwalk : g.Walks σ path.relationships e record) (he : g.entityAt? path.relationships = some e)
    (hf : e.field? path.field = some f) :
    g.value σ path = (g.cell e record path.field).toValue f.dataType := by
  have hfield : g.fieldAt? path = some f := by rw [fieldAt?, he, Option.bind_some, hf]
  rw [value, hfield, cellAt, he, hwalk.choice_eq]

/-- Every path of the query reads the record that its relationships lead to. -/
theorem Inner.reads (h : Inner g spec σ) (hp : Catalog.Planned g.catalog spec p start)
    (hroot : g.root = spec.table) {path : FieldPath} (hpath : path ∈ spec.paths) :
    ∃ e record f, g.Walks σ path.relationships e record ∧ e.field? path.field = some f ∧
      g.value σ path = (g.cell e record path.field).toValue f.dataType := by
  obtain ⟨r, hr⟩ := hp.exists_resolution hpath
  obtain ⟨-, hnames, hfield, start', hstart', htrail⟩ := Catalog.resolve_eq_ok_iff.mp hr
  have he : g.entityAt? path.relationships = some r.entity := by
    rw [entityAt?, hroot, hstart', Option.bind_some, ← hnames]
    exact htrail.walk?_eq
  have hroute := QuerySpec.relationships_mem_routes hpath
  obtain ⟨record, hwalk⟩ := h.walks hroute he
  exact ⟨r.entity, record, r.field, hwalk, hfield, value_of_walks hwalk he hfield⟩

/-- In left joins every record of the root has a choice that fits. -/
theorem exists_outer_of_root (hp : Catalog.Planned g.catalog spec p start) {record : Nat}
    (hrecord : record < (g.rowsAt []).length) : ∃ σ, Outer g spec σ ∧ σ [] = some record := by
  obtain ⟨σ, hσ, hroot⟩ := exists_choice_of_root hrecord
  exact ⟨σ, fits_left_iff.mp (((enumerates_of_planned hp).mem_iff σ).mp hσ), hroot⟩

end RecordGraph

/-! ## Executing -/

open RecordGraph

/-- With inner joins a plan gives one row for each choice of linked records that meets all filters,
and the values of the row are those that its paths reach by walking from record to record. -/
theorem execute_inner (hp : c.plan spec = .ok p) (hosts : (spec.graph c db).Hosts spec) :
    if tableLimit < p.joins.nodes.length then db.execute .inner p = .error .tooManyTables
    else ∃ choices : List Choice, choices.Nodup ∧
      (∀ σ, σ ∈ choices ↔ Inner (spec.graph c db) spec σ ∧
        ∀ filter ∈ spec.filters, (spec.graph c db).Holds σ filter) ∧
      (∀ σ ∈ choices, ∀ path ∈ spec.paths, ∃ e record f,
        (spec.graph c db).Walks σ path.relationships e record ∧ e.field? path.field = some f ∧
          (spec.graph c db).value σ path =
            ((spec.graph c db).cell e record path.field).toValue f.dataType) ∧
      db.execute .inner p = .ok (choices.map ((spec.graph c db).row spec)) := by
  obtain ⟨start, h⟩ := Catalog.plan_spec hp
  split
  · rename_i hlimit
    exact execute_of_too_many (g := spec.graph c db) h.grounded .inner hlimit
  · rename_i hlimit
    have hb : (spec.graph c db).Backed spec p start := ⟨h, rfl, hosts⟩
    obtain ⟨choices, hnodup, hmem, hrows⟩ := exists_choices hb .inner hlimit
    simp only [fits_inner_iff] at hmem
    refine ⟨choices, hnodup, hmem, ?_, hrows⟩
    intro σ hσ path hpath
    exact ((hmem σ).mp hσ).1.reads h rfl hpath

namespace Staff

theorem routes_query (hroute : route ∈ query.routes) :
    route = [] ∨ route = [] ++ ["boss"] ∨ route = ["boss"] ++ ["boss"] := by
  have hroutes : query.routes = [[], ["boss"], ["boss", "boss"], [], [], ["boss"]] := rfl
  simp only [hroutes, List.mem_cons, List.not_mem_nil, or_false] at hroute
  rcases hroute with h | h | h | h | h | h <;> simp [h]

theorem hosts_query : (query.graph catalog database).Hosts query where
  tables := by
    intro route hroute e he
    rcases routes_query hroute with rfl | rfl | rfl
    all_goals
      cases he
      rfl
  fields := by
    intro path hpath e he
    have hpaths : query.paths =
        [⟨["boss", "boss"], "name", by decide⟩, ⟨[], "name", by decide⟩, bossName] := rfl
    simp only [hpaths, List.mem_cons, List.not_mem_nil, or_false] at hpath
    rcases hpath with rfl | rfl | rfl
    all_goals
      cases he
      rfl
  joins := by
    intro route name e edge target hroute he hedge htarget
    rcases routes_query hroute with h | h | h
    · exact absurd h.symm (nil_ne_child route name)
    all_goals
      obtain ⟨rfl, hname⟩ := List.append_inj' h rfl
      cases hname
      cases he
      cases hedge
      cases htarget
      exact ⟨rfl, rfl⟩

/-- Only Cy has a superior with a superior. -/
theorem execute_inner_query : ∃ p, catalog.plan query = .ok p ∧
    database.execute .inner p = .ok [[.text "Ann", .text "Cy"]] ∧
    ∃ choices : List Choice, choices.Nodup ∧
      (∀ σ, σ ∈ choices ↔ Inner (query.graph catalog database) query σ ∧
        ∀ filter ∈ query.filters, (query.graph catalog database).Holds σ filter) ∧
      database.execute .inner p = .ok (choices.map ((query.graph catalog database).row query)) := by
  obtain ⟨p, hp, hlength, hrows⟩ : ∃ p, catalog.plan query = .ok p ∧ p.joins.nodes.length = 3 ∧
      database.execute .inner p = .ok [[.text "Ann", .text "Cy"]] := ⟨_, rfl, rfl, rfl⟩
  have h := execute_inner hp hosts_query
  rw [hlength, if_neg (by decide)] at h
  obtain ⟨choices, hnodup, hmem, -, hchoices⟩ := h
  exact ⟨p, hp, hrows, choices, hnodup, hmem, hchoices⟩

end Staff

/-- With left joins a plan gives one row for each choice in which chains without partner stay empty,
if it meets all filters. Without filters every record of the root has a row, and the rows of inner
joins are those of the choices that leave no chain empty. -/
theorem execute_left (hp : c.plan spec = .ok p) (hosts : (spec.graph c db).Hosts spec) :
    if tableLimit < p.joins.nodes.length then db.execute .left p = .error .tooManyTables
    else ∃ choices : List Choice, choices.Nodup ∧
      (∀ σ, σ ∈ choices ↔ Outer (spec.graph c db) spec σ ∧
        ∀ filter ∈ spec.filters, (spec.graph c db).Holds σ filter) ∧
      db.execute .left p = .ok (choices.map ((spec.graph c db).row spec)) ∧
      (spec.filters = [] → ∀ record < ((spec.graph c db).rowsAt []).length,
        ∃ σ ∈ choices, σ [] = some record) ∧
      ∃ rows, db.execute .inner p = .ok rows ∧
        rows.Perm ((choices.filter (complete spec)).map ((spec.graph c db).row spec)) := by
  obtain ⟨start, h⟩ := Catalog.plan_spec hp
  split
  · rename_i hlimit
    exact execute_of_too_many (g := spec.graph c db) h.grounded .left hlimit
  · rename_i hlimit
    have hb : (spec.graph c db).Backed spec p start := ⟨h, rfl, hosts⟩
    obtain ⟨choices, hnodup, hmem, hrows⟩ := exists_choices hb .left hlimit
    obtain ⟨inner, hnodup', hmem', hrows'⟩ := exists_choices hb .inner hlimit
    simp only [fits_left_iff] at hmem
    simp only [fits_inner_iff] at hmem'
    refine ⟨choices, hnodup, hmem, hrows, ?_, _, hrows', ?_⟩
    · intro hnone record hrecord
      obtain ⟨σ, hσ, hroot⟩ := exists_outer_of_root h hrecord
      refine ⟨σ, (hmem σ).mpr ⟨hσ, ?_⟩, hroot⟩
      rw [hnone]
      exact fun filter hfilter => absurd hfilter List.not_mem_nil
    -- both lists have no repetitions, so having the same choices makes them permutations
    · refine List.Perm.map _ ((List.perm_ext_iff_of_nodup hnodup' (hnodup.filter _)).mpr fun σ => ?_)
      rw [hmem', List.mem_filter, hmem, inner_iff_outer_complete, and_right_comm]

/-- Bob's superior has none, which leaves the last chain empty. Of Ann and Dee the filter is unknown,
since they have no superior among the staff. -/
theorem Staff.execute_left_query : ∃ p, Staff.catalog.plan Staff.query = .ok p ∧
    Staff.database.execute .left p = .ok [[.null, .text "Bob"], [.text "Ann", .text "Cy"]] ∧
    ∃ choices : List Choice, choices.Nodup ∧
      (∀ σ, σ ∈ choices ↔ Outer (Staff.query.graph Staff.catalog Staff.database) Staff.query σ ∧
        ∀ filter ∈ Staff.query.filters,
          (Staff.query.graph Staff.catalog Staff.database).Holds σ filter) ∧
      ∃ rows, Staff.database.execute .inner p = .ok rows ∧
        rows.Perm ((choices.filter (complete Staff.query)).map
          ((Staff.query.graph Staff.catalog Staff.database).row Staff.query)) := by
  obtain ⟨p, hp, hlength, hrows⟩ : ∃ p, Staff.catalog.plan Staff.query = .ok p ∧
      p.joins.nodes.length = 3 ∧
      Staff.database.execute .left p = .ok [[.null, .text "Bob"], [.text "Ann", .text "Cy"]] :=
    ⟨_, rfl, rfl, rfl⟩
  have h := execute_left hp Staff.hosts_query
  rw [hlength, if_neg (by decide)] at h
  obtain ⟨choices, hnodup, hmem, -, -, hinner⟩ := h
  exact ⟨p, hp, hrows, choices, hnodup, hmem, hinner⟩

end DottedQuery
