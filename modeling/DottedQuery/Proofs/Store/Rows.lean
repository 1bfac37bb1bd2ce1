/-
# DottedQuery.Proofs.Store.Rows -- the rows of a plan are those of its choices

The answer to a statement goes through the tables in the order of the statement and keeps assignments
of rows to tables. Every assignment is a choice seen through the nodes of the tree: `placed` reads the
record that a choice has at the route of a node. One joined table extends an assignment as one loop
extends the choice (`extend_placed`), so the assignments of a whole statement are the choices of
nested loops over the routes of the tree (`assignments_eq`), and a column of an assignment is a column
of the record at its route (`cell_placed`).

Neither the order of the joins nor the tree is left in what comes out: `exists_choices` speaks of the
record graph alone.
-/
import DottedQuery.Proofs.Store.Loops
import DottedQuery.Proofs.Store.Prepared

namespace DottedQuery.RecordGraph

open JoinTree (Crossing Grounded Stands)
open Sql (JoinKind)
open Store (Assignment Cell Manner PreparedJoin Prepared Relation Row Slot tableLimit)

variable {g : RecordGraph} {spec : QuerySpec} {p : Plan} {start e target : Entity} {t : JoinTree}
  {n parent : JoinNode} {ns : List JoinNode} {edge : Relationship} {kind : JoinKind} {σ : Choice}
  {column : String} {slot : Slot} {j : PreparedJoin} {s : Prepared}

/-! ## Assignments of choices -/

/-- What a choice puts in the tables of nodes. -/
def placed (g : RecordGraph) (ns : List JoinNode) (σ : Choice) : Assignment :=
  ns.map fun n => (σ n.route).map fun record => (g.relationOf n).rows.getD record []

theorem Shown.rows_eq (h : g.Shown n e) : g.rows e = (g.relationOf n).rows := by
  rw [rows, h.relation_eq]
  rfl

/-- The cell in the place of a column is the cell of the record at the node's route. -/
theorem cell_placed (hplace : ns[n.id]? = some n) (h : g.Shown n e) (hof : g.SlotOf n column slot)
    (σ : Choice) : (g.placed ns σ).cell slot = g.cellAt σ n.route column := by
  rw [Assignment.cell, placed, List.getElem?_map, hof.table_eq, hplace, Option.map_some, cellAt,
    h.entity_eq]
  cases σ n.route with
  | none => rfl
  | some record =>
    show _ = g.cell e record column
    rw [cell, h.position?_eq hof, h.rows_eq]
    rfl

/-- The cells of a column compare as those of its slot. -/
theorem manner_of_slot (h : g.Shown n e) (hof : g.SlotOf n column slot) :
    g.manner e column = slot.manner := by
  rw [manner, h.relation_eq, h.position?_eq hof, hof.manner_eq]

/-! ## One joined table -/

/-- Filtering a list is filtering its positions. -/
theorem filter_eq_map_range {α : Type} (P : α → Bool) (xs : List α) (default : α) :
    xs.filter P = ((List.range xs.length).filter fun i => P (xs.getD i default)).map
      (xs.getD · default) := by
  have hxs : xs = (List.range xs.length).map (xs.getD · default) := by
    refine List.ext_getElem (by rw [List.length_map, List.length_range]) fun i hi _ => ?_
    rw [List.getElem_map, List.getElem_range, List.getD_eq_getElem?_getD,
      List.getElem?_eq_getElem hi]
    rfl
  conv_lhs => rw [hxs]
  rw [List.filter_map]
  rfl

/-- The partners of an assignment in a joined table are the partners of the record it has in the
parent's table. Without such a record the parent's column is null and there are none. -/
theorem partners_placed (hready : g.Ready start t n j parent edge e target) (hn : g.Shown n target)
    (hparent : g.Shown parent e) (hplace : ns[parent.id]? = some parent) (σ : Choice) :
    j.partners (g.placed ns σ) =
      (((σ parent.route).map (g.partners parent.route edge.name)).getD []).map
        ((g.relationOf n).rows.getD · []) := by
  have hcell := cell_placed hplace hparent hready.partner_slot σ
  have hroute : n.route = parent.route ++ [edge.name] := hready.crossing.hangs.route_eq
  cases hσ : σ parent.route with
  | none =>
    have hnull : (g.placed ns σ).cell j.partner = .null := by
      rw [hcell, cellAt, hparent.entity_eq, hσ]
    -- null agrees with no cell
    refine List.filter_eq_nil_iff.mpr fun row _ => ?_
    rw [hnull, Cell.agrees_null]
    exact Bool.false_ne_true
  | some record =>
    have hpartner : (g.placed ns σ).cell j.partner = g.cell e record edge.sourceColumn := by
      rw [hcell, cellAt, hparent.entity_eq, hσ]
    have hpartners : g.partners parent.route edge.name record =
        (List.range (g.rows target).length).filter (g.linked e edge target record) := by
      rw [partners, hparent.entity_eq, ← hroute, hn.entity_eq, Option.bind_some,
        hready.crossing.edge_eq]
    rw [PreparedJoin.partners, hready.rows_eq, filter_eq_map_range _ _ [], Option.map_some,
      Option.getD_some, hpartners, hn.rows_eq]
    refine congrArg (List.map _) (List.filter_congr fun i _ => ?_)
    rw [linked, cell, hn.position?_eq hready.target_slot, hn.rows_eq, hpartner,
      manner_of_slot hn hready.target_slot, manner_of_slot hparent hready.partner_slot]

/-- A loop goes through the records as the join goes through their rows. -/
theorem extend_eq {records : List Nat} {a : Assignment} {row : Nat → Row}
    (h : j.partners a = records.map row) :
    j.extend kind a = (turns kind records).map fun seat => a ++ [seat.map row] := by
  unfold PreparedJoin.extend turns
  rw [h]
  cases kind with
  | inner =>
    show (records.map row).map _ = (records.map some).map _
    rw [List.map_map, List.map_map]
    rfl
  | left =>
    cases records with
    | nil => rfl
    | cons record others =>
      show ((record :: others).map row).map _ = ((record :: others).map some).map _
      rw [List.map_map, List.map_map]
      rfl

/-! ## All joined tables -/

/-- The loop that a node stands for: its parent's route and the last name of its own. -/
def stepOf (n : JoinNode) : List String × String := (n.route.dropLast, n.route.getLast?.getD "")

theorem stepOf_eq {route : List String} {name : String} (h : n.route = route ++ [name]) :
    stepOf n = (route, name) := by
  rw [stepOf, h, List.dropLast_concat, List.getLast?_concat]
  rfl

/-- One more table extends the assignments as one more loop extends the choices. -/
theorem extend_placed (hready : g.Ready start t n j parent edge e target) (hn : g.Shown n target)
    (hparent : g.Shown parent e) (hplace : ns[parent.id]? = some parent)
    (hnew : n.route ∉ ns.map (·.route)) (σ : Choice) :
    j.extend kind (g.placed ns σ) = (g.extensions kind (stepOf n) σ).map (g.placed (ns ++ [n])) := by
  have hroute : n.route = parent.route ++ [edge.name] := hready.crossing.hangs.route_eq
  -- no earlier node has the new route, so what was placed stays
  have hold : ∀ seat, g.placed ns (Function.update σ n.route seat) = g.placed ns σ := by
    intro seat
    refine List.map_congr_left fun m hm => ?_
    have hne : m.route ≠ n.route := by
      intro h
      exact hnew (h ▸ List.mem_map_of_mem hm)
    rw [Function.update_of_ne hne]
  rw [extend_eq (partners_placed hready hn hparent hplace σ), stepOf_eq hroute, extensions, seats,
    List.map_map]
  refine List.map_congr_left fun seat _ => ?_
  have hlast : g.placed (ns ++ [n]) (Function.update σ n.route seat) =
      g.placed ns (Function.update σ n.route seat) ++
        [seat.map ((g.relationOf n).rows.getD · [])] := by
    rw [placed, List.map_append, List.map_singleton, Function.update_self]
    rfl
  rw [hold] at hlast
  rw [hroute] at hlast
  exact hlast.symm

/-- The assignments of the remaining tables are the choices of the remaining loops. -/
theorem foldl_placed (hb : g.Backed spec p start) {before after : List JoinNode}
    (hcut : p.joins.joined = before ++ after) {joins : List PreparedJoin}
    (hjoins : List.Forall₂
      (fun n j => ∃ parent edge e target, g.Ready start p.joins n j parent edge e target) after joins)
    (found : List Choice) :
    joins.foldl (fun found j => found.flatMap (j.extend kind))
        (found.map (g.placed (p.joins.root :: before))) =
      ((after.map stepOf).foldl (fun found step => found.flatMap (g.extensions kind step)) found).map
        (g.placed p.joins.nodes) := by
  induction hjoins generalizing before found with
  | nil =>
    rw [List.append_nil] at hcut
    rw [JoinTree.nodes, hcut]
    rfl
  | @cons n j rest joins hj _ ih =>
    obtain ⟨parent, edge, e, target, hready⟩ := hj
    have hs : p.joins.Sound := hb.planned.grounded.sound
    obtain ⟨hshown, hshown', -, -⟩ :=
      positions_of_crossing hb (JoinTree.mem_of_cut hcut) hready.crossing
    have hplace := hs.getElem?_of_mem_before hcut (hs.parent_mem_before hcut hready.crossing.hangs)
    have hnew := hs.route_not_mem_before hcut
    have hstep : (found.map (g.placed (p.joins.root :: before))).flatMap (j.extend kind) =
        (found.flatMap (g.extensions kind (stepOf n))).map
          (g.placed (p.joins.root :: (before ++ [n]))) := by
      rw [List.flatMap_map, List.map_flatMap]
      refine List.flatMap_congr fun σ _ => ?_
      exact extend_placed hready hshown hshown' hplace hnew σ
    rw [List.foldl_cons, hstep, ih (JoinTree.next_cut hcut), List.map_cons,
      List.foldl_cons]

/-- The assignments of a plan are the choices of nested loops over the routes of its tree. -/
theorem assignments_eq (hb : g.Backed spec p start) (hs : g.Looked start p kind s) :
    s.assignments = (g.choices kind (p.joins.joined.map stepOf)).map (g.placed p.joins.nodes) := by
  have hg : Grounded g.catalog start p.joins := hb.planned.grounded
  have hshown : g.Shown p.joins.root start := shown_of_stands hb List.mem_cons_self hg.stands_root
  have hrows : g.rowsAt [] = s.root := by
    have hentity := hshown.entity_eq
    rw [hg.sound.root_route] at hentity
    rw [rowsAt, hentity, hs.root_eq, Option.map_some, Option.getD_some, hshown.rows_eq]
  have hroot : s.root.map ([some ·]) = g.rootChoices.map (g.placed [p.joins.root]) := by
    have hall := filter_eq_map_range (fun _ => true) s.root []
    rw [List.filter_true, List.filter_true] at hall
    rw [hall, rootChoices, hrows, List.map_map, List.map_map]
    refine List.map_congr_left fun record _ => ?_
    rw [Function.comp, Function.comp, placed, List.map_singleton, hg.sound.root_route,
      Function.update_self, ← hs.root_eq]
    rfl
  have hcut : p.joins.joined = [] ++ p.joins.joined := rfl
  rw [Prepared.assignments, hroot, hs.kind_eq, choices]
  exact foldl_placed hb hcut hs.joins g.rootChoices

/-! ## The order of the loops -/

/-- The loops of a tree are in an order in which they can be gone through. -/
theorem ordered_steps (hs : t.Sound) {before after : List JoinNode}
    (hcut : t.joined = before ++ after) :
    Ordered ((t.root :: before).map (·.route)) (after.map stepOf) := by
  induction after generalizing before with
  | nil => trivial
  | cons n rest ih =>
    obtain ⟨arrival, parent, hangs⟩ := hs.hangs n (JoinTree.mem_of_cut hcut)
    have hrest := ih (JoinTree.next_cut hcut)
    show Ordered ((t.root :: before).map (·.route)) (stepOf n :: rest.map stepOf)
    rw [stepOf_eq hangs.route_eq]
    refine ⟨List.mem_map_of_mem (hs.parent_mem_before hcut hangs), ?_, ?_⟩
    · rw [← hangs.route_eq]
      exact hs.route_not_mem_before hcut
    · rw [← List.cons_append, List.map_append, List.map_singleton, hangs.route_eq] at hrest
      exact hrest

/-- The loops of a tree are for its routes. -/
theorem routes_eq_steps (hs : t.Sound) :
    t.routes = [] :: (t.joined.map stepOf).map fun step => step.1 ++ [step.2] := by
  rw [JoinTree.routes, JoinTree.nodes, List.map_cons, hs.root_route, List.map_map]
  refine congrArg (List.cons []) (List.map_congr_left fun n hn => ?_)
  obtain ⟨arrival, parent, hangs⟩ := hs.hangs n hn
  rw [Function.comp, stepOf_eq hangs.route_eq, hangs.route_eq]

theorem Fits.congr {done done' : List (List String)} (hsame : ∀ route, route ∈ done ↔ route ∈ done')
    (h : Fits g kind done σ) : Fits g kind done' σ where
  unplanned := fun route hroute => h.unplanned route fun hmem => hroute ((hsame route).mp hmem)
  root := h.root
  seated := fun route name hmem => h.seated route name ((hsame _).mpr hmem)

/-- The loops of a plan find every choice that fits its query, once. -/
theorem enumerates_of_planned (h : Catalog.Planned g.catalog spec p start) :
    Enumerates g kind spec.routes (g.choices kind (p.joins.joined.map stepOf)) := by
  have hs : p.joins.Sound := h.grounded.sound
  have hcut : p.joins.joined = [] ++ p.joins.joined := rfl
  have hordered := ordered_steps hs hcut
  rw [List.map_singleton, hs.root_route] at hordered
  have hall : Enumerates g kind _ _ := enumerates_choices hordered
  rw [← routes_eq_steps hs] at hall
  refine ⟨hall.nodup, fun σ => (hall.mem_iff σ).trans ⟨Fits.congr h.mem_routes, Fits.congr ?_⟩⟩
  exact fun route => (h.mem_routes route).symm

/-! ## What paths read -/

theorem fieldAt?_of_resolve {path : FieldPath} {r : Resolution}
    (h : g.catalog.resolve g.root path = .ok r) : g.fieldAt? path = some r.field := by
  obtain ⟨-, hnames, hfield, start, hstart, htrail⟩ := Catalog.resolve_eq_ok_iff.mp h
  have hwalk := htrail.walk?_eq
  rw [hnames] at hwalk
  rw [fieldAt?, entityAt?, hstart, Option.bind_some, hwalk, Option.bind_some, hfield]

/-- What an assignment has in the column of a path is what the choice reads at the path. -/
theorem cell_of_finds (hb : g.Backed spec p start) {path : FieldPath}
    (h : g.Finds p.joins path slot) (σ : Choice) :
    (g.placed p.joins.nodes σ).cell slot = g.cellAt σ path.relationships path.field ∧
      g.mannerAt path.relationships path.field = slot.manner := by
  obtain ⟨n, hn, hroute, hof⟩ := h
  obtain ⟨hops, e, hst⟩ := hb.planned.grounded.stands n hn
  have hshown : g.Shown n e := shown_of_stands hb hn hst
  rw [← hroute]
  refine ⟨cell_placed (hb.planned.grounded.sound.node?_of_mem hn) hshown hof σ, ?_⟩
  rw [mannerAt, hshown.entity_eq, Option.map_some, Option.getD_some, manner_of_slot hshown hof]

/-- An assignment is admitted exactly when all filters hold of its choice. -/
theorem admits_placed (hb : g.Backed spec p start) (hs : g.Looked start p kind s) (σ : Choice) :
    s.admits (g.placed p.joins.nodes σ) = true ↔ ∀ filter ∈ spec.filters, g.Holds σ filter := by
  have hpairs : List.Forall₂ (fun filter (entry : Slot × Condition) => ∃ f,
      g.fieldAt? filter.path = some f ∧ filter.condition f.dataType = .ok entry.2 ∧
        g.Finds p.joins filter.path entry.1) spec.filters s.conditions := by
    refine forall₂_trans ?_ hb.planned.predicates hs.conditions
    rintro filter q ⟨slot, condition⟩ ⟨r, n, hr, -, hpath, hcondition⟩ ⟨hfinds, rfl⟩
    rw [← hb.root_eq] at hr
    exact ⟨r.field, fieldAt?_of_resolve hr, hcondition, hpath ▸ hfinds⟩
  rw [Prepared.admits, List.all_eq_true]
  refine (forall_mem_iff_of_forall₂ ?_ hpairs).symm
  rintro filter ⟨slot, condition⟩ ⟨f, hf, hcondition, hfinds⟩
  -- a filter has one field and one condition, those that planning found
  obtain ⟨hcell, hmanner⟩ := cell_of_finds hb hfinds σ
  rw [Condition.holds, hcell, ← hmanner, decide_eq_true_iff]
  constructor
  · rintro ⟨f', condition', hf', hcondition', htruth⟩
    rw [hf] at hf'
    cases hf'
    rw [hcondition] at hcondition'
    cases hcondition'
    exact htruth
  · intro htruth
    exact ⟨f, condition, hf, hcondition, htruth⟩

/-- The values of an assignment are the row of its choice. -/
theorem values_placed (hb : g.Backed spec p start) (hs : g.Looked start p kind s) (σ : Choice) :
    (p.selections.map (·.dataType)).zipWith Cell.toValue
      (s.columns.map (g.placed p.joins.nodes σ).cell) = g.row spec σ := by
  have hpairs : List.Forall₂ (fun field value => g.value σ field.path = value) spec.fields
      (p.selections.zipWith
        (fun sel slot => ((g.placed p.joins.nodes σ).cell slot).toValue sel.dataType) s.columns) := by
    refine forall₂_zipWith ?_ hb.planned.selections hs.columns
    rintro field sel slot ⟨r, n, hr, -, hpath, htype, -⟩ hfinds
    rw [← hb.root_eq] at hr
    rw [hpath] at hfinds
    rw [value, fieldAt?_of_resolve hr, (cell_of_finds hb hfinds σ).1, htype]
  rw [List.zipWith_map, row]
  have hvalues := map_eq_of_forall₂ (fun _ _ h => h) hpairs
  rw [List.map_id'] at hvalues
  exact hvalues.symm

/-! ## The answer to a plan -/

/-- The answer has the row of every choice that fits the query and meets its filters, once for each. -/
theorem exists_choices (hb : g.Backed spec p start) (kind : JoinKind)
    (hlimit : ¬tableLimit < p.joins.nodes.length) :
    ∃ choices : List Choice, choices.Nodup ∧
      (∀ σ, σ ∈ choices ↔ Fits g kind spec.routes σ ∧ ∀ filter ∈ spec.filters, g.Holds σ filter) ∧
      g.db.execute kind p = .ok (choices.map (g.row spec)) := by
  obtain ⟨s, hs, hlooked⟩ := exists_prepare hb kind hlimit
  have hall : Enumerates g kind spec.routes _ := enumerates_of_planned hb.planned
  refine ⟨(g.choices kind (p.joins.joined.map stepOf)).filter fun σ =>
    s.admits (g.placed p.joins.nodes σ), hall.nodup.filter _, ?_, ?_⟩
  · intro σ
    rw [List.mem_filter, hall.mem_iff, admits_placed hb hlooked]
  · have hanswer : g.db.answer (p.select kind) = .ok s.rows := by
      rw [Store.Database.answer, hs]
      rfl
    rw [Store.Database.execute, hanswer]
    refine congrArg Except.ok ?_
    rw [Store.valuesOf, Prepared.rows, assignments_eq hb hlooked, List.filter_map, List.map_map,
      List.map_map]
    refine List.map_congr_left fun σ _ => ?_
    exact values_placed hb hlooked σ

/-- A plan with more tables than a statement may have is refused. -/
theorem execute_of_too_many (hg : Grounded g.catalog start p.joins) (kind : JoinKind)
    (h : tableLimit < p.joins.nodes.length) :
    g.db.execute kind p = .error .tooManyTables := by
  rw [← length_select_joins hg kind] at h
  rw [Store.Database.execute, Store.Database.answer, Store.prepare, if_pos h]
  rfl

end DottedQuery.RecordGraph
