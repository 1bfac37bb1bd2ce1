/-
# DottedQuery.Proofs.Store.Narrowing -- further filters give no row more often

A query with further filters may need further tables, and a table that is joined may multiply rows. It
does not if the relationship that leads to it leads to one record (`SingleAt`), whatever cardinality is
declared for it: then a choice for the larger query is settled by what it chooses for the chains of the
smaller one. `limited` forgets the rest of a choice. It keeps different choices apart, what it keeps
fits the smaller query, and the row does not change, since no requested field is on a new chain. So the
rows of the larger query are among those of the smaller one, none of them more often
(`narrowed_of_plan`).
-/
import DottedQuery.Proofs.Plan.Extension
import DottedQuery.Proofs.Store.FanOut

namespace DottedQuery

open Sql (JoinKind)
open Store (tableLimit)

variable {c : Catalog} {g : RecordGraph} {kind : JoinKind} {spec : QuerySpec}
  {more : List FilterSpec} {p p' : Plan} {start start' : Entity} {kept done : List (List String)}
  {σ σ' : Choice} {route : List String}

namespace RecordGraph

/-! ## What a row depends on -/

theorem cellAt_congr (h : σ route = σ' route) (column : String) :
    g.cellAt σ route column = g.cellAt σ' route column := by
  rw [cellAt, cellAt, h]

/-- A row depends on the records at the ends of the requested paths. -/
theorem row_congr (h : ∀ route ∈ spec.routes, σ route = σ' route) : g.row spec σ = g.row spec σ' := by
  refine List.map_congr_left fun field hfield => ?_
  have hpath : field.path ∈ spec.paths := List.mem_append_left _ (List.mem_map_of_mem hfield)
  rw [value, value, cellAt_congr (h _ (QuerySpec.relationships_mem_routes hpath))]

/-- A filter depends on the record at the end of its path. -/
theorem Holds.congr {filter : FilterSpec} (h : g.Holds σ filter)
    (hsame : σ filter.path.relationships = σ' filter.path.relationships) : g.Holds σ' filter := by
  obtain ⟨f, condition, hf, hcondition, htruth⟩ := h
  refine ⟨f, condition, hf, hcondition, ?_⟩
  rw [← cellAt_congr hsame]
  exact htruth

/-! ## Choices for fewer chains -/

/-- What a choice chooses for some chains, and nothing for the others. -/
def limited (kept : List (List String)) (σ : Choice) : Choice :=
  fun route => if route ∈ kept then σ route else none

theorem limited_of_mem (h : route ∈ kept) (σ : Choice) : limited kept σ route = σ route :=
  if_pos h

/-- A choice that fits more chains fits those of them that go on from each other. -/
theorem Fits.limited (h : Fits g kind done σ) (hsub : kept ⊆ done) (hroot : [] ∈ kept)
    (hclosed : Closed kept) : Fits g kind kept (limited kept σ) where
  unplanned := fun _ hroute => if_neg hroute
  root := by
    rw [limited_of_mem hroot]
    exact h.root
  seated := by
    intro route name hroute
    rw [limited_of_mem hroute, seats_congr (limited_of_mem (hclosed route name hroute) σ)]
    exact h.seated route name (hsub hroute)

/-- Where the other chains have single relationships, nothing is forgotten that was not settled. -/
theorem eq_of_limited (h : Fits g kind done σ) (h' : Fits g kind done σ') (hroot : [] ∈ kept)
    (hsingle : ∀ route name, route ++ [name] ∈ done → route ++ [name] ∉ kept → g.Single route name)
    (heq : limited kept σ = limited kept σ') : σ = σ' := by
  have hkept : ∀ route ∈ kept, σ route = σ' route := by
    intro route hroute
    rw [← limited_of_mem hroute σ, heq, limited_of_mem hroute]
  refine h.eq_of_agree h' (hkept [] hroot) fun route name hdone => ?_
  by_cases hold : route ++ [name] ∈ kept
  · exact Or.inl (hkept _ hold)
  · exact Or.inr (hsingle route name hdone hold)

end RecordGraph

/-! ## Rows of the larger query -/

open RecordGraph

theorem QuerySpec.closed_routes (spec : QuerySpec) : Closed spec.routes :=
  fun _ _ => QuerySpec.mem_routes_of_prefix (List.prefix_append _ _)

/-- The chains that only the larger query has lead over single relationships, if its new nodes do. -/
theorem single_of_new_nodes (h : Catalog.Planned c spec p start)
    (h' : Catalog.Planned c (spec.filteredBy more) p' start')
    (hsingle : ∀ n ∈ p'.joins.joined, n ∉ p.joins.joined → g.SingleAt p'.joins n)
    {name : String} (hroute : route ++ [name] ∈ (spec.filteredBy more).routes)
    (hnew : route ++ [name] ∉ spec.routes) : g.Single route name := by
  refine single_of_mem_routes h'.grounded.sound ((h'.mem_routes _).mpr hroute) fun n hn hhere => ?_
  refine hsingle n hn fun hold => hnew ?_
  rw [← h.mem_routes, ← hhere]
  exact List.mem_map_of_mem (List.mem_cons_of_mem _ hold)

/-- The plan of a query is the beginning of the plan of the query with further filters. If the
relationships that only the larger plan crosses lead to one record, no row of the larger query occurs
more often than it does among those of the query, with either kind of join. -/
theorem narrowed_of_plan (hp : c.plan spec = .ok p) (hp' : c.plan (spec.filteredBy more) = .ok p') :
    p.Extends p' ∧ ∀ (db : Store.Database) (kind : JoinKind),
      (∀ n ∈ p'.joins.joined, n ∉ p.joins.joined → (spec.graph c db).SingleAt p'.joins n) →
      ∀ rows', db.execute kind p' = .ok rows' →
        ∃ rows, db.execute kind p = .ok rows ∧ rows'.Subperm rows := by
  have hextends := Catalog.extends_of_plan hp hp'
  refine ⟨hextends, ?_⟩
  intro db kind hsingle rows' hrows'
  obtain ⟨start, h⟩ := Catalog.plan_spec hp
  obtain ⟨start', h'⟩ := Catalog.plan_spec hp'
  have hpaths : ∀ path ∈ spec.paths, path ∈ (spec.filteredBy more).paths := by
    intro path hpath
    rw [QuerySpec.paths_filteredBy]
    exact List.mem_append_left _ hpath
  -- a database that answers the larger query answers the smaller one
  obtain ⟨hosts', hlimit'⟩ :=
    (execute_succeeds_iff (g := spec.graph c db) h' rfl kind).mp ⟨rows', hrows'⟩
  have hlimit : ¬tableLimit < p.joins.nodes.length := by
    have := hextends.nodes.length_le
    omega
  obtain ⟨choices, -, hmem, hrows⟩ :=
    exists_choices (g := spec.graph c db) ⟨h, rfl, hosts'.mono hpaths⟩ kind hlimit
  obtain ⟨choices', hnodup', hmem', hall'⟩ :=
    exists_choices (g := spec.graph c db) ⟨h', rfl, hosts'⟩ kind hlimit'
  obtain rfl : rows' = _ := Except.ok.inj (hrows'.symm.trans hall')
  refine ⟨_, hrows, ?_⟩
  have hroot : [] ∈ spec.routes := QuerySpec.nil_mem_routes h.nonempty
  -- without what they choose for new chains, the choices are different ones of the smaller query
  have hnodup : (choices'.map (limited spec.routes)).Nodup := by
    refine List.Nodup.map_on ?_ hnodup'
    intro σ hσ σ' hσ' heq
    exact eq_of_limited ((hmem' σ).mp hσ).1 ((hmem' σ').mp hσ').1 hroot
      (fun route name => single_of_new_nodes h h' hsingle) heq
  have hsub : choices'.map (limited spec.routes) ⊆ choices := by
    intro τ hτ
    obtain ⟨σ, hσ, rfl⟩ := List.mem_map.mp hτ
    obtain ⟨hfits, hholds⟩ := (hmem' σ).mp hσ
    refine (hmem _).mpr ⟨?_, ?_⟩
    · exact hfits.limited (fun _ => QuerySpec.routes_mono hpaths) hroot spec.closed_routes
    · intro filter hfilter
      have hroute : filter.path.relationships ∈ spec.routes :=
        QuerySpec.relationships_mem_routes (List.mem_append_right _ (List.mem_map_of_mem hfilter))
      exact (hholds filter (List.mem_append_left _ hfilter)).congr (limited_of_mem hroute σ).symm
  obtain ⟨kept, hperm, hsublist⟩ := List.subperm_of_subset hnodup hsub
  have hsame : choices'.map ((spec.graph c db).row (spec.filteredBy more)) =
      (choices'.map (limited spec.routes)).map ((spec.graph c db).row spec) := by
    rw [List.map_map]
    refine List.map_congr_left fun σ _ => ?_
    -- both queries request the same fields
    show (spec.graph c db).row spec σ = (spec.graph c db).row spec (limited spec.routes σ)
    exact row_congr fun route hroute => (limited_of_mem hroute σ).symm
  rw [hsame]
  exact ⟨kept.map _, hperm.map _, hsublist.map _⟩

namespace Staff

/-- The names of all. -/
def names : QuerySpec where
  table := "person"
  fields := [⟨ownName, none⟩]
  filters := []

/-- There is a superior, and it is known by a name. -/
def subordinate : FilterSpec := ⟨bossName, .null, .bool false⟩

/-- The filter joins the superiors, of whom nobody has two. -/
theorem narrowed_of_plan_names : ∃ p p', catalog.plan names = .ok p ∧
    catalog.plan (names.filteredBy [subordinate]) = .ok p' ∧
    p.joins.routes = [[]] ∧ p'.joins.routes = [[], ["boss"]] ∧ p.Extends p' ∧
    ∃ rows, database.execute .left p = .ok rows ∧
      List.Subperm [[.text "Bob"], [.text "Cy"]] rows := by
  obtain ⟨p, hp, hroutes⟩ : ∃ p, catalog.plan names = .ok p ∧ p.joins.routes = [[]] := ⟨_, rfl, rfl⟩
  obtain ⟨p', hp', hroutes', hjoined, hrows'⟩ : ∃ p',
      catalog.plan (names.filteredBy [subordinate]) = .ok p' ∧ p'.joins.routes = [[], ["boss"]] ∧
      (∀ n ∈ p'.joins.joined, crossed p'.joins n ∈ [some ([], "boss"), some (["boss"], "boss")]) ∧
      database.execute .left p' = .ok [[.text "Bob"], [.text "Cy"]] :=
    ⟨_, rfl, rfl, by decide, rfl⟩
  obtain ⟨hextends, hnarrowed⟩ := narrowed_of_plan hp hp'
  refine ⟨p, p', hp, hp', hroutes, hroutes', hextends, hnarrowed database .left ?_ _ hrows'⟩
  exact fun n hn _ => singleAt_boss hjoined hn

end Staff

end DottedQuery
