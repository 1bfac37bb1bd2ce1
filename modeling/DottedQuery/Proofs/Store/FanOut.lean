/-
# DottedQuery.Proofs.Store.FanOut -- when a record of the root has one row

A plan says of itself whether a record of the root may have several rows. It says no if every
relationship that it crosses is declared to lead to one record; whether that is so is up to the
database. `SingleAt` is what has to be true of it: no record before a node is linked to two different
records at the node. Null is linked to nothing, so it may stand in as many records as it likes.

The choice of a record for the root then settles a whole choice (`Fits.eq_of_agree`), one name after
the other: what may be chosen for a chain depends on the record before it, and there is at most one
possibility. With left joins there is always one. So no two rows have the same record of the root, with
either kind of join and whatever the filters are, and without filters left joins keep them all
(`rows_of_not_fansOut`).
-/
import DottedQuery.Proofs.Store.Execution
import DottedQuery.Proofs.Store.Hosting
import Mathlib.Data.List.Perm.Subperm

namespace DottedQuery

open Sql (JoinKind)
open Store (tableLimit)

variable {c : Catalog} {db : Store.Database} {g : RecordGraph} {kind : JoinKind} {spec : QuerySpec}
  {p : Plan} {t : JoinTree} {done : List (List String)} {σ σ' : Choice}
  {route : List String} {name : String} {seat seat' : Option Nat}

namespace RecordGraph

/-! ## Relationships that lead to one record -/

/-- No record at a chain of names is linked to two different records through the relationship of a
name. -/
def Single (g : RecordGraph) (route : List String) (name : String) : Prop :=
  ∀ e edge target, g.entityAt? route = some e → e.relationship? name = some edge →
    g.entityAt? (route ++ [name]) = some target →
    ∀ record < (g.rows e).length, ∀ partner < (g.rows target).length,
      ∀ partner' < (g.rows target).length, g.linked e edge target record partner = true →
        g.linked e edge target record partner' = true → partner = partner'

/-- No record before a node is linked to two different records at the node. -/
def SingleAt (g : RecordGraph) (t : JoinTree) (n : JoinNode) : Prop :=
  ∀ arrival, n.arrival = some arrival → g.Single (t.routeTo arrival.parent) arrival.edge.name

theorem Single.eq_of_mem_partners (h : g.Single route name) {record partner partner' : Nat}
    (hrecord : record < (g.rowsAt route).length) (hpartner : partner ∈ g.partners route name record)
    (hpartner' : partner' ∈ g.partners route name record) : partner = partner' := by
  obtain ⟨e, edge, target, he, hedge, htarget, hlt, hlinked⟩ := mem_partners.mp hpartner
  obtain ⟨e', edge', target', he', hedge', htarget', hlt', hlinked'⟩ := mem_partners.mp hpartner'
  cases he.symm.trans he'
  cases hedge.symm.trans hedge'
  cases htarget.symm.trans htarget'
  rw [rowsAt, he, Option.map_some, Option.getD_some] at hrecord
  exact h e edge target he hedge htarget record hrecord partner hlt partner' hlt' hlinked hlinked'

/-- A chain of a tree leads over a single relationship if the node that stands for it does. -/
theorem single_of_mem_routes (hs : t.Sound) (hroute : route ++ [name] ∈ t.routes)
    (h : ∀ n ∈ t.joined, n.route = route ++ [name] → g.SingleAt t n) : g.Single route name := by
  obtain ⟨n, hn, hhere⟩ := List.mem_map.mp hroute
  have hjoined : n ∈ t.joined := by
    refine hs.mem_joined hn ?_
    rw [hhere]
    exact (nil_ne_child route name).symm
  obtain ⟨arrival, parent, hangs⟩ := hs.hangs n hjoined
  obtain ⟨hparent, hname⟩ := List.append_inj' (hhere.symm.trans hangs.route_eq) rfl
  have hsingle := h n hjoined hhere arrival hangs.arrival_eq
  rwa [JoinTree.routeTo_of_node? hangs.parent_eq, ← hparent, ← List.singleton_inj.mp hname] at hsingle

/-! ## Choices with little choice -/

/-- A loop over at most one record has one turn at most. -/
theorem turns_unique {records : List Nat} (h : ∀ a ∈ records, ∀ b ∈ records, a = b)
    (hseat : seat ∈ turns kind records) (hseat' : seat' ∈ turns kind records) : seat = seat' := by
  cases kind with
  | inner =>
    obtain ⟨a, ha, rfl⟩ := mem_turns_inner.mp hseat
    obtain ⟨b, hb, rfl⟩ := mem_turns_inner.mp hseat'
    rw [h a ha b hb]
  | left =>
    rcases mem_turns_left.mp hseat with ⟨a, ha, rfl⟩ | ⟨hnone, rfl⟩
    · rcases mem_turns_left.mp hseat' with ⟨b, hb, rfl⟩ | ⟨hnone, -⟩
      · rw [h a ha b hb]
      · exact absurd (hnone ▸ ha) List.not_mem_nil
    · rcases mem_turns_left.mp hseat' with ⟨b, hb, -⟩ | ⟨-, rfl⟩
      · exact absurd (hnone ▸ hb) List.not_mem_nil
      · rfl

/-- A choice has records that are there. -/
theorem Fits.record_lt (h : Fits g kind done σ) {record : Nat} (hσ : σ route = some record) :
    record < (g.rowsAt route).length := by
  rcases List.eq_nil_or_concat route with rfl | ⟨before, name, rfl⟩
  · obtain ⟨record', hlt, hrecord'⟩ := h.root
    cases hrecord'.symm.trans hσ
    exact hlt
  · rw [List.concat_eq_append] at hσ ⊢
    have hdone : before ++ [name] ∈ done := by
      by_contra hnot
      cases (h.unplanned _ hnot).symm.trans hσ
    have hseat := h.seated before name hdone
    rw [hσ, seats] at hseat
    -- whichever the kind of join, a record that is chosen is a partner
    have hpartner : ∃ partner ∈ ((σ before).map (g.partners before name)).getD [],
        record = partner := by
      cases kind with
      | inner =>
        obtain ⟨partner, hpartner, heq⟩ := mem_turns_inner.mp hseat
        exact ⟨partner, hpartner, Option.some.inj heq⟩
      | left =>
        rcases mem_turns_left.mp hseat with ⟨partner, hpartner, heq⟩ | ⟨-, hnone⟩
        · exact ⟨partner, hpartner, Option.some.inj heq⟩
        · cases hnone
    obtain ⟨partner, hpartner, rfl⟩ := hpartner
    cases hbefore : σ before with
    | none =>
      rw [hbefore] at hpartner
      exact absurd hpartner List.not_mem_nil
    | some source =>
      rw [hbefore] at hpartner
      obtain ⟨-, -, target, -, -, htarget, hlt, -⟩ := mem_partners.mp hpartner
      rw [rowsAt, htarget]
      exact hlt

/-- Two choices that agree on the record of the root, and on all chains but those whose last
relationship leads to one record, are the same: by induction on the chain, the records before it are. -/
theorem Fits.eq_of_agree (h : Fits g kind done σ) (h' : Fits g kind done σ') (hroot : σ [] = σ' [])
    (hagree : ∀ route name, route ++ [name] ∈ done →
      σ (route ++ [name]) = σ' (route ++ [name]) ∨ g.Single route name) : σ = σ' := by
  funext route
  -- along the chain: a name has one possibility once the record before it is the same
  induction route using List.reverseRecOn with
  | nil => exact hroot
  | append_singleton route name ih =>
    by_cases hdone : route ++ [name] ∈ done
    · rcases hagree route name hdone with heq | hsingle
      · exact heq
      · have hseat := h.seated route name hdone
        have hseat' := h'.seated route name hdone
        rw [seats_congr ih.symm] at hseat'
        refine turns_unique ?_ hseat hseat'
        cases hrecord : σ route with
        | none => exact fun a ha => absurd ha List.not_mem_nil
        | some record =>
          exact fun a ha b hb => hsingle.eq_of_mem_partners (h.record_lt hrecord) ha hb
    · rw [h.unplanned _ hdone, h'.unplanned _ hdone]

/-! ## One choice for each record of the root -/

variable {choices : List Choice}

/-- Where the root settles a choice, choices without repetition have different records for it. -/
theorem nodup_roots (hnodup : choices.Nodup) (h : ∀ σ ∈ choices, Fits g kind done σ)
    (hsingle : ∀ route name, route ++ [name] ∈ done → g.Single route name) :
    (choices.map (· [])).Nodup := by
  refine List.Nodup.map_on ?_ hnodup
  intro σ hσ σ' hσ' hroot
  exact (h σ hσ).eq_of_agree (h σ' hσ') hroot fun route name hdone => Or.inr (hsingle route name hdone)

/-- Choices with different records for the root are at most as many as there are such records. -/
theorem length_le_roots (hroots : (choices.map (· [])).Nodup) (h : ∀ σ ∈ choices, Fits g kind done σ) :
    choices.length ≤ (g.rowsAt []).length := by
  have hsub : choices.map (· []) ⊆ (List.range (g.rowsAt []).length).map some := by
    intro root hroot
    obtain ⟨σ, hσ, rfl⟩ := List.mem_map.mp hroot
    obtain ⟨record, hlt, hrecord⟩ := (h σ hσ).root
    exact List.mem_map.mpr ⟨record, List.mem_range.mpr hlt, hrecord.symm⟩
  have hlength := (List.subperm_of_subset hroots hsub).length_le
  rwa [List.length_map, List.length_map, List.length_range] at hlength

/-- If every record of the root has a choice, there are at least as many choices as records. -/
theorem roots_length_le (h : ∀ record < (g.rowsAt []).length, ∃ σ ∈ choices, σ [] = some record) :
    (g.rowsAt []).length ≤ choices.length := by
  have hsub : (List.range (g.rowsAt []).length).map some ⊆ choices.map (· []) := by
    intro root hroot
    obtain ⟨record, hrecord, rfl⟩ := List.mem_map.mp hroot
    obtain ⟨σ, hσ, heq⟩ := h record (List.mem_range.mp hrecord)
    exact List.mem_map.mpr ⟨σ, hσ, heq⟩
  have hnodup : ((List.range (g.rowsAt []).length).map some).Nodup :=
    List.nodup_range.map fun _ _ => Option.some.inj
  have hlength := (List.subperm_of_subset hnodup hsub).length_le
  rwa [List.length_map, List.length_map, List.length_range] at hlength

end RecordGraph

open RecordGraph

/-- If a plan does not fan out, and the relationships that are declared to lead to one record do, no
two of its rows have the same record of the root. Without predicates left joins give each record of
the root its row. -/
theorem rows_of_not_fansOut (hp : c.plan spec = .ok p) (hfan : p.joins.fansOut = false)
    (hsingle : ∀ n ∈ p.joins.joined, n.isMany = false → (spec.graph c db).SingleAt p.joins n)
    (hosts : (spec.graph c db).Hosts spec) (kind : JoinKind) :
    if tableLimit < p.joins.nodes.length then db.execute kind p = .error .tooManyTables
    else ∃ choices : List Choice,
      db.execute kind p = .ok (choices.map ((spec.graph c db).row spec)) ∧
      (∀ σ, σ ∈ choices ↔ Fits (spec.graph c db) kind spec.routes σ ∧
        ∀ filter ∈ spec.filters, (spec.graph c db).Holds σ filter) ∧
      (choices.map (· [])).Nodup ∧ choices.length ≤ ((spec.graph c db).rowsAt []).length ∧
      (kind = .left → p.predicates = [] → choices.length = ((spec.graph c db).rowsAt []).length ∧
        ∀ record < ((spec.graph c db).rowsAt []).length, ∃ σ ∈ choices, σ [] = some record) := by
  obtain ⟨start, h⟩ := Catalog.plan_spec hp
  split
  · rename_i hlimit
    exact execute_of_too_many (g := spec.graph c db) h.grounded kind hlimit
  · rename_i hlimit
    obtain ⟨choices, hnodup, hmem, hrows⟩ :=
      exists_choices (g := spec.graph c db) ⟨h, rfl, hosts⟩ kind hlimit
    have hfits : ∀ σ ∈ choices, Fits (spec.graph c db) kind spec.routes σ :=
      fun σ hσ => ((hmem σ).mp hσ).1
    -- a plan that does not fan out crosses no relationship to many
    have hall : ∀ n ∈ p.joins.joined, (spec.graph c db).SingleAt p.joins n := by
      intro n hn
      exact hsingle n hn (Bool.eq_false_iff.mpr (List.any_eq_false.mp hfan n hn))
    have hroots : (choices.map (· [])).Nodup := by
      refine nodup_roots hnodup hfits fun route name hroute => ?_
      exact single_of_mem_routes h.grounded.sound ((h.mem_routes _).mpr hroute) fun n hn _ => hall n hn
    have hle := length_le_roots hroots hfits
    refine ⟨choices, hrows, hmem, hroots, hle, ?_⟩
    rintro rfl hnone
    have hfilters : spec.filters = [] := by
      have hpredicates := h.predicates
      rw [hnone] at hpredicates
      exact List.forall₂_nil_right_iff.mp hpredicates
    have hkept : ∀ record < ((spec.graph c db).rowsAt []).length,
        ∃ σ ∈ choices, σ [] = some record := by
      intro record hrecord
      obtain ⟨σ, hσ, hroot⟩ := exists_outer_of_root (g := spec.graph c db) h hrecord
      refine ⟨σ, (hmem σ).mpr ⟨fits_left_iff.mpr hσ, ?_⟩, hroot⟩
      rw [hfilters]
      exact fun filter hfilter => absurd hfilter List.not_mem_nil
    exact ⟨Nat.le_antisymm hle (roots_length_le hkept), hkept⟩

namespace Staff

/-- Everybody, with the superior of the superior. -/
def everybody : QuerySpec := { query with filters := [] }

/-- No two of the staff have the same name. -/
theorem single_boss (h : route = [] ∨ route = ["boss"]) :
    (everybody.graph catalog database).Single route "boss" := by
  intro e edge target he hedge htarget
  rcases h with rfl | rfl
  all_goals
    cases he
    cases hedge
    cases htarget
    decide

/-- What is crossed to arrive at a node. -/
def crossed (t : JoinTree) (n : JoinNode) : Option (List String × String) :=
  n.arrival.map fun arrival => (t.routeTo arrival.parent, arrival.edge.name)

theorem singleAt_boss {n : JoinNode}
    (h : ∀ n ∈ t.joined, crossed t n ∈ [some ([], "boss"), some (["boss"], "boss")])
    (hn : n ∈ t.joined) : (everybody.graph catalog database).SingleAt t n := by
  intro arrival harrival
  have hstep := h n hn
  rw [crossed, harrival, Option.map_some] at hstep
  simp only [List.mem_cons, List.not_mem_nil, or_false, Option.some.injEq, Prod.mk.injEq] at hstep
  rcases hstep with ⟨hroute, hname⟩ | ⟨hroute, hname⟩
  · exact hname ▸ single_boss (Or.inl hroute)
  · exact hname ▸ single_boss (Or.inr hroute)

theorem hosts_everybody : (everybody.graph catalog database).Hosts everybody := by
  refine hosts_query.mono fun path hpath => ?_
  rw [QuerySpec.paths, everybody, List.map_nil, List.append_nil] at hpath
  exact List.mem_append_left _ hpath

/-- Each of the four has one row, with or without a superior of the superior. -/
theorem rows_of_not_fansOut_everybody : ∃ p, catalog.plan everybody = .ok p ∧
    p.joins.fansOut = false ∧ p.predicates = [] ∧
    database.execute .left p = .ok [[.null, .text "Ann"], [.null, .text "Bob"],
      [.text "Ann", .text "Cy"], [.null, .text "Dee"]] ∧
    ∃ choices : List Choice,
      database.execute .left p =
        .ok (choices.map ((everybody.graph catalog database).row everybody)) ∧
      (choices.map (· [])).Nodup ∧ choices.length = 4 := by
  obtain ⟨p, hp, hfan, hpredicates, hlength, hjoined, hrows⟩ : ∃ p,
      catalog.plan everybody = .ok p ∧ p.joins.fansOut = false ∧ p.predicates = [] ∧
      p.joins.nodes.length = 3 ∧
      (∀ n ∈ p.joins.joined, crossed p.joins n ∈ [some ([], "boss"), some (["boss"], "boss")]) ∧
      database.execute .left p = .ok [[.null, .text "Ann"], [.null, .text "Bob"],
        [.text "Ann", .text "Cy"], [.null, .text "Dee"]] :=
    ⟨_, rfl, rfl, rfl, rfl, by decide, rfl⟩
  have h := rows_of_not_fansOut hp hfan (fun n hn _ => singleAt_boss hjoined hn) hosts_everybody .left
  rw [hlength, if_neg (by decide)] at h
  obtain ⟨choices, hchoices, -, hroots, -, hall⟩ := h
  exact ⟨p, hp, hfan, hpredicates, hrows, choices, hchoices, hroots, (hall rfl hpredicates).1⟩

end Staff

end DottedQuery
