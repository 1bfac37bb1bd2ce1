/-
# DottedQuery.Proofs.Store.Reordering -- the order of a query does not matter

A query with its fields and its filters in another order has a plan exactly when the query has one. The
two plans are the same up to the numbers of nodes, and so are their answers: for every database and
both kinds of join the rows are the same, as often as before, with their columns in the new order
(`reordered_of_plan`).

The texts of the two statements have little in common, since every alias is made of a number. The
answers are compared where no number is left, at the choices of records that fit a query: which choices
do is settled by the routes and the filters, in whatever order they come.
-/
import DottedQuery.Proofs.Plan.Renumbering
import DottedQuery.Proofs.Store.Execution
import DottedQuery.Proofs.Store.Hosting

namespace DottedQuery

open JoinTree (Renumbers)
open Sql (JoinKind)
open Store (StoreError tableLimit)

variable {c : Catalog} {spec spec' : QuerySpec} {order filterOrder : List Nat} {p p' : Plan}
  {start start' : Entity} {g : RecordGraph} {kind : JoinKind} {σ : Choice}

/-! ## What does not depend on the order -/

namespace RecordGraph

theorem hosts_reordered (horders : spec.Orders order filterOrder) :
    g.Hosts (spec.reordered order filterOrder) ↔ g.Hosts spec := by
  constructor
  · intro h
    exact h.mono fun _ => horders.mem_paths.mpr
  · intro h
    exact h.mono fun _ => horders.mem_paths.mp

/-- A row has a value for each field, so its values follow the order of the fields. -/
theorem row_reordered (g : RecordGraph) (σ : Choice) :
    g.row (spec.reordered order filterOrder) σ = reorder order (g.row spec σ) :=
  (reorder_map order _ spec.fields).symm

/-- The same choices fit the query in any order and meet its filters. -/
theorem fits_reordered (horders : spec.Orders order filterOrder) :
    (Fits g kind (spec.reordered order filterOrder).routes σ ∧
        ∀ filter ∈ (spec.reordered order filterOrder).filters, g.Holds σ filter) ↔
      Fits g kind spec.routes σ ∧ ∀ filter ∈ spec.filters, g.Holds σ filter := by
  simp only [horders.mem_filters]
  refine and_congr_left' ⟨Fits.congr fun _ => horders.mem_routes, Fits.congr fun _ => ?_⟩
  exact horders.mem_routes.symm

end RecordGraph

/-! ## Answers -/

open RecordGraph

/-- Two answers have the same rows, up to an order of the columns, or none of them is given. -/
def SameAnswers (order : List Nat) (answer answer' : Except StoreError (List (List Value))) : Prop :=
  ((∃ rows, answer = .ok rows) ↔ ∃ rows', answer' = .ok rows') ∧
    ∀ rows rows', answer = .ok rows → answer' = .ok rows' → rows'.Perm (rows.map (reorder order))

theorem sameAnswers_of_planned (h : Catalog.Planned c spec p start)
    (h' : Catalog.Planned c (spec.reordered order filterOrder) p' start')
    (horders : spec.Orders order filterOrder) (db : Store.Database) (kind : JoinKind) :
    SameAnswers order (db.execute kind p) (db.execute kind p') := by
  obtain ⟨hrenumbers, -, -⟩ := Catalog.renumbers_of_reordered h h' horders
  have hlength : p.joins.nodes.length = p'.joins.nodes.length := by
    rw [← hrenumbers.nodes.length_eq, List.length_map]
  have hanswered := execute_succeeds_iff (g := spec.graph c db) h rfl kind
  have hanswered' := execute_succeeds_iff (g := spec.graph c db) h' rfl kind
  rw [hosts_reordered horders, ← hlength, ← hanswered] at hanswered'
  refine ⟨hanswered'.symm, ?_⟩
  intro rows rows' hrows hrows'
  obtain ⟨hosts, hlimit⟩ := hanswered.mp ⟨rows, hrows⟩
  obtain ⟨choices, hnodup, hmem, hall⟩ :=
    exists_choices (g := spec.graph c db) ⟨h, rfl, hosts⟩ kind hlimit
  obtain ⟨choices', hnodup', hmem', hall'⟩ :=
    exists_choices (g := spec.graph c db) ⟨h', rfl, (hosts_reordered horders).mpr hosts⟩ kind
      (hlength ▸ hlimit)
  obtain rfl : rows = _ := Except.ok.inj (hrows.symm.trans hall)
  obtain rfl : rows' = _ := Except.ok.inj (hrows'.symm.trans hall')
  -- both lists have no repetitions, so having the same choices makes them permutations
  have hchoices : choices'.Perm choices := by
    refine (List.perm_ext_iff_of_nodup hnodup' hnodup).mpr fun σ => ?_
    rw [hmem, hmem', fits_reordered horders]
  rw [List.map_map]
  refine (hchoices.map _).trans ?_
  rw [List.map_congr_left fun σ _ => row_reordered (spec.graph c db) σ]
  rfl

/-! ## Queries in another order -/

/-- The plan of a query and that of the query in another order: the nodes are the same up to their
numbers, with the same routes, parents, relationships, entities and tables; what is read from them is
the same in the other order; and so are the answers. -/
structure Reordered (order filterOrder : List Nat) (p p' : Plan) : Prop where
  nodes : ∃ f : Nat → Nat, Renumbers f p.joins p'.joins ∧
    p'.selections = reorder order (p.selections.map (Selection.renumber f)) ∧
    p'.predicates = reorder filterOrder (p.predicates.map (Predicate.renumber f))
  joinCount_eq : p'.joins.joinCount = p.joins.joinCount
  fansOut_eq : p'.joins.fansOut = p.joins.fansOut
  answers : ∀ (db : Store.Database) (kind : JoinKind),
    SameAnswers order (db.execute kind p) (db.execute kind p')

/-- Whether a query has a plan does not depend on the order of its fields and filters, and neither does
what the plan joins and answers. -/
theorem reordered_of_plan (c : Catalog) (horders : spec.Orders order filterOrder) :
    ((∃ p, c.plan spec = .ok p) ↔ ∃ p', c.plan (spec.reordered order filterOrder) = .ok p') ∧
      ∀ p p', c.plan spec = .ok p → c.plan (spec.reordered order filterOrder) = .ok p' →
        Reordered order filterOrder p p' := by
  refine ⟨(Catalog.exists_plan_reordered horders).symm, ?_⟩
  intro p p' hp hp'
  obtain ⟨start, h⟩ := Catalog.plan_spec hp
  obtain ⟨start', h'⟩ := Catalog.plan_spec hp'
  obtain ⟨hnodes, hselections, hpredicates⟩ := Catalog.renumbers_of_reordered h h' horders
  exact ⟨⟨_, hnodes, hselections, hpredicates⟩, hnodes.joinCount_eq,
    hnodes.fansOut_eq h.grounded.sound h'.grounded.sound,
    fun db kind => sameAnswers_of_planned h h' horders db kind⟩

namespace Staff

/-- Persons with their superiors and with those whose superior they are. -/
def team : Catalog where
  entities := [person.addLink "reports" ⟨"person", "name", "boss_name", .many⟩]

/-- Who is above and who is below somebody who is not Eve and has a superior. -/
def neighbours : QuerySpec where
  table := "person"
  fields := [⟨bossName, some "above"⟩, ⟨⟨["reports"], "name", by decide⟩, none⟩]
  filters := [⟨ownName, .not, .text "Eve"⟩, ⟨bossName, .null, .bool false⟩]

/-- The two joined tables change their places. -/
theorem reordered_of_plan_neighbours :
    ∃ p p', team.plan neighbours = .ok p ∧
      team.plan (neighbours.reordered [1, 0] [1, 0]) = .ok p' ∧
      p.joins.routes = [[], ["boss"], ["reports"]] ∧
      p'.joins.routes = [[], ["reports"], ["boss"]] ∧
      database.execute .inner p = .ok [[.text "Ann", .text "Cy"]] ∧
      neighbours.Orders [1, 0] [1, 0] ∧ Reordered [1, 0] [1, 0] p p' := by
  have horders : neighbours.Orders [1, 0] [1, 0] := ⟨by decide, by decide⟩
  obtain ⟨p, hp, hroutes, hrows⟩ : ∃ p, team.plan neighbours = .ok p ∧
      p.joins.routes = [[], ["boss"], ["reports"]] ∧
      database.execute .inner p = .ok [[.text "Ann", .text "Cy"]] := ⟨_, rfl, rfl, rfl⟩
  obtain ⟨p', hp', hroutes'⟩ : ∃ p', team.plan (neighbours.reordered [1, 0] [1, 0]) = .ok p' ∧
      p'.joins.routes = [[], ["reports"], ["boss"]] := ⟨_, rfl, rfl⟩
  obtain ⟨-, hreordered⟩ := reordered_of_plan team horders
  exact ⟨p, p', hp, hp', hroutes, hroutes', hrows, horders, hreordered p p' hp hp'⟩

end Staff

end DottedQuery
