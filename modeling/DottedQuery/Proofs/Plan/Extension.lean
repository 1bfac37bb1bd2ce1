/-
# DottedQuery.Proofs.Plan.Extension -- queries with further filters

Filters come last in planning, so planning a query with further filters is planning the query and then
going on with them on the tree that this leaves (`plan_filteredBy`). Whatever these filters are, the
tree only grows at its end. So the plan of the query is the beginning of the larger one
(`extends_of_plan`): no node changes its number, and with it no column its alias.
-/
import DottedQuery.Proofs.Plan.Placement

namespace DottedQuery

open JoinTree (Grows)

variable {α β : Type} {c : Catalog} {root : String} {spec : QuerySpec} {more : List FilterSpec}
  {p p' : Plan} {t t' : JoinTree}

/-- The query with further filters after its own. -/
def QuerySpec.filteredBy (spec : QuerySpec) (more : List FilterSpec) : QuerySpec :=
  { spec with filters := spec.filters ++ more }

/-- The paths of further filters come last. -/
theorem QuerySpec.paths_filteredBy (spec : QuerySpec) (more : List FilterSpec) :
    (spec.filteredBy more).paths = spec.paths ++ more.map (·.path) := by
  rw [paths, paths, filteredBy, List.map_append, List.append_assoc]

/-- A larger plan that goes on where a plan ends. -/
structure Plan.Extends (p p' : Plan) : Prop where
  nodes : p.joins.nodes <+: p'.joins.nodes
  selections_eq : p'.selections = p.selections
  predicates : p.predicates <+: p'.predicates

namespace Catalog

/-! ## Planning in two parts -/

/-- Entries can be planned in two parts, the second one on the tree of the first. -/
theorem planEach_append (step : JoinTree → α → Except PlanError (JoinTree × β)) (t : JoinTree)
    (xs ys : List α) :
    planEach step t (xs ++ ys) = planEach step t xs >>= fun first =>
      (planEach step first.1 ys).map fun second => (second.1, first.2 ++ second.2) := by
  induction xs generalizing t with
  | nil =>
    show planEach step t ys = (planEach step t ys).map id
    cases planEach step t ys with
    | error fault => rfl
    | ok second => rfl
  | cons x xs ih =>
    rw [List.cons_append, planEach, planEach]
    cases step t x with
    | error fault => rfl
    | ok entry =>
      show (planEach step entry.1 (xs ++ ys) >>= fun rest => _) =
        (planEach step entry.1 xs >>= fun rest => _) >>= fun first => _
      rw [ih]
      cases planEach step entry.1 xs with
      | error fault => rfl
      | ok first =>
        show (planEach step first.1 ys).map _ >>= _ = (planEach step first.1 ys).map _
        cases planEach step first.1 ys with
        | error fault => rfl
        | ok second => rfl

/-- Planning a query with further filters is planning the query and then these filters. -/
theorem plan_filteredBy (c : Catalog) (spec : QuerySpec) (more : List FilterSpec) :
    c.plan (spec.filteredBy more) = c.plan spec >>= fun p =>
      (planEach (c.planFilter spec.table) p.joins more).map fun grown =>
        ⟨grown.1, p.selections, p.predicates ++ grown.2⟩ := by
  unfold plan QuerySpec.filteredBy
  split
  · rfl
  cases c.requireEntity spec.table with
  | error fault => rfl
  | ok start =>
    show (planEach _ _ spec.fields >>= fun fields => _) =
      (planEach _ _ spec.fields >>= fun fields => _) >>= fun p => _
    cases planEach (c.planField spec.table) (JoinTree.ofRoot start.name start.tableName)
      spec.fields with
    | error fault => rfl
    | ok fields =>
      show (planEach _ fields.1 (spec.filters ++ more) >>= fun filters => _) =
        (planEach _ fields.1 spec.filters >>= fun filters => _) >>= fun p => _
      rw [planEach_append]
      cases planEach (c.planFilter spec.table) fields.1 spec.filters with
      | error fault => rfl
      | ok filters =>
        show (planEach _ filters.1 more).map _ >>= _ = (planEach _ filters.1 more).map _
        cases planEach (c.planFilter spec.table) filters.1 more with
        | error fault => rfl
        | ok grown => rfl

/-- A further filter whose path resolves can be planned exactly if its operand suits the field. -/
theorem exists_plan_filteredBy_iff {filter : FilterSpec} {r : Resolution} (hp : c.plan spec = .ok p)
    (hr : c.resolve spec.table filter.path = .ok r) :
    (∃ p', c.plan (spec.filteredBy [filter]) = .ok p') ↔
      ∃ condition, filter.condition r.field.dataType = .ok condition := by
  obtain ⟨hnonempty, hroot, hfields, hfilters⟩ := exists_plan_iff.mp ⟨p, hp⟩
  rw [exists_plan_iff, QuerySpec.filteredBy, List.forall_mem_append, List.forall_mem_singleton]
  constructor
  · rintro ⟨-, -, -, -, entry, hentry⟩
    obtain ⟨hr', hcondition⟩ := resolveFilter_eq_ok_iff.mp hentry
    cases hr.symm.trans hr'
    exact ⟨entry.1, hcondition⟩
  · rintro ⟨condition, hcondition⟩
    exact ⟨hnonempty, hroot, hfields, hfilters, (condition, r),
      resolveFilter_eq_ok_iff.mpr ⟨hr, hcondition⟩⟩

/-! ## Growing -/

theorem grows_place (c : Catalog) (t : JoinTree) (r : Resolution) : Grows t (c.place t r).1 := by
  obtain ⟨asked, -, h⟩ := JoinTree.joins_joinFrom c.tableOf t 0 r.hops
  exact h.grows

/-- Planning a filter makes a tree grow, if anything. -/
theorem grows_planFilter {filter : FilterSpec} {predicate : Predicate}
    (h : c.planFilter root t filter = .ok (t', predicate)) : Grows t t' := by
  obtain ⟨r, -, h⟩ := bind_eq_ok.mp h
  obtain ⟨condition, -, h⟩ := bind_eq_ok.mp h
  cases h
  exact grows_place c t r

/-- What every step makes grow grows over all of them. -/
theorem grows_planEach {step : JoinTree → α → Except PlanError (JoinTree × β)}
    (hstep : ∀ t x t' y, step t x = .ok (t', y) → Grows t t') {xs : List α} {ys : List β}
    (h : planEach step t xs = .ok (t', ys)) : Grows t t' := by
  induction xs generalizing t ys with
  | nil =>
    cases h
    exact Grows.refl _
  | cons x xs ih =>
    obtain ⟨⟨mid, y⟩, hx, h⟩ := bind_eq_ok.mp h
    obtain ⟨⟨last, rest⟩, hxs, h⟩ := bind_eq_ok.mp h
    cases h
    exact (hstep _ x mid y hx).trans (ih hxs)

/-- The plan of a query is the beginning of the plan of the query with further filters. -/
theorem extends_of_plan (hp : c.plan spec = .ok p) (hp' : c.plan (spec.filteredBy more) = .ok p') :
    p.Extends p' := by
  rw [plan_filteredBy, hp] at hp'
  change (planEach (c.planFilter spec.table) p.joins more).map _ = .ok p' at hp'
  cases hmore : planEach (c.planFilter spec.table) p.joins more with
  | error fault =>
    rw [hmore] at hp'
    cases hp'
  | ok grown =>
    rw [hmore] at hp'
    cases hp'
    refine ⟨grows_planEach ?_ hmore, rfl, List.prefix_append ..⟩
    exact fun t filter t' predicate => grows_planFilter

end Catalog

end DottedQuery
