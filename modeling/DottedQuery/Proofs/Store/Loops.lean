/-
# DottedQuery.Proofs.Store.Loops -- nested loops find every choice once

Choices are found by nested loops: first the records of the root, then for one chain of names after
the other the records linked to the record of the chain before it. For a left join a loop without any
record is gone through once with none.

`Fits` says which choices are found when the loops for some chains are done, and `Enumerates` that a
list has all of these once each. The step is one more loop (`Enumerates.extend`): the new chain is not
yet done, so nothing that a choice was found for changes, and the chain before it is. The run over all
loops is by induction (`enumerates_choices`); no order of the chains is asked for but that a chain
comes after the one it goes on from.
-/
import DottedQuery.Proofs.Store.RecordGraph
import Mathlib.Data.List.Nodup
import Mathlib.Logic.Function.Basic

namespace DottedQuery.RecordGraph

open Sql (JoinKind)

variable {g : RecordGraph} {kind : JoinKind} {spec : QuerySpec} {σ : Choice}
  {done : List (List String)} {found : List Choice} {route : List String} {name : String}
  {steps : List (List String × String)} {seat : Option Nat}

/-! ## Loops -/

/-- What a loop over records goes through. -/
def turns : JoinKind → List Nat → List (Option Nat)
  | .left, [] => [none]
  | _, records => records.map some

/-- What the loop for a name after a chain goes through. -/
def seats (g : RecordGraph) (kind : JoinKind) (σ : Choice) (route : List String) (name : String) :
    List (Option Nat) :=
  turns kind (((σ route).map (g.partners route name)).getD [])

/-- The choices with which one loop goes on from a choice. -/
def extensions (g : RecordGraph) (kind : JoinKind) (step : List String × String) (σ : Choice) :
    List Choice :=
  (g.seats kind σ step.1 step.2).map fun seat => Function.update σ (step.1 ++ [step.2]) seat

/-- The choices of a record for the root alone. -/
def rootChoices (g : RecordGraph) : List Choice :=
  (List.range (g.rowsAt []).length).map fun record => Function.update (fun _ => none) [] (some record)

/-- The choices that loops over these chains find. -/
def choices (g : RecordGraph) (kind : JoinKind) (steps : List (List String × String)) : List Choice :=
  steps.foldl (fun found step => found.flatMap (g.extensions kind step)) g.rootChoices

/-- What is known of a choice when the loops for some chains are done. -/
structure Fits (g : RecordGraph) (kind : JoinKind) (done : List (List String)) (σ : Choice) :
    Prop where
  unplanned : ∀ route, route ∉ done → σ route = none
  root : ∃ record, record < (g.rowsAt []).length ∧ σ [] = some record
  seated : ∀ route name, route ++ [name] ∈ done → σ (route ++ [name]) ∈ g.seats kind σ route name

/-- A list has every choice that fits, and has it once. -/
structure Enumerates (g : RecordGraph) (kind : JoinKind) (done : List (List String))
    (found : List Choice) : Prop where
  nodup : found.Nodup
  mem_iff : ∀ σ, σ ∈ found ↔ Fits g kind done σ

/-- A chain is done only after the one it goes on from. -/
def Closed (done : List (List String)) : Prop :=
  ∀ route name, route ++ [name] ∈ done → route ∈ done

/-- Loops in an order in which they can be gone through. -/
def Ordered : List (List String) → List (List String × String) → Prop
  | _, [] => True
  | done, step :: rest =>
    step.1 ∈ done ∧ step.1 ++ [step.2] ∉ done ∧ Ordered (done ++ [step.1 ++ [step.2]]) rest

/-! ## Records for one chain -/

theorem nodup_partners (g : RecordGraph) (route : List String) (name : String) (record : Nat) :
    (g.partners route name record).Nodup := by
  unfold partners
  split
  · exact List.nodup_range.filter _
  · exact List.nodup_nil

theorem nodup_turns {records : List Nat} (h : records.Nodup) (kind : JoinKind) :
    (turns kind records).Nodup := by
  unfold turns
  split
  · exact List.nodup_singleton _
  · exact h.map fun _ _ => Option.some.inj

theorem nodup_seats (g : RecordGraph) (kind : JoinKind) (σ : Choice) (route : List String)
    (name : String) : (g.seats kind σ route name).Nodup := by
  refine nodup_turns ?_ kind
  cases σ route with
  | none => exact List.nodup_nil
  | some record => exact nodup_partners g route name record

theorem mem_turns_inner {records : List Nat} :
    seat ∈ turns .inner records ↔ ∃ record ∈ records, seat = some record := by
  simp only [turns, List.mem_map, eq_comm]

theorem mem_turns_left {records : List Nat} : seat ∈ turns .left records ↔
    (∃ record ∈ records, seat = some record) ∨ records = [] ∧ seat = none := by
  cases records with
  | nil => simp [turns]
  | cons record others => simp only [turns, List.mem_map, eq_comm, reduceCtorEq, false_and, or_false]

/-- A left join always goes on. -/
theorem turns_left_ne_nil (records : List Nat) : turns .left records ≠ [] := by
  cases records with
  | nil => exact List.cons_ne_nil _ _
  | cons record others => exact List.cons_ne_nil _ _

/-- What may be chosen depends on the record at the chain before and on no other. -/
theorem seats_congr {σ' : Choice} (h : σ' route = σ route) :
    g.seats kind σ' route name = g.seats kind σ route name := by
  rw [seats, seats, h]

/-! ## One more loop -/

theorem route_ne_child (route : List String) (name : String) : route ≠ route ++ [name] := by
  simp

theorem nil_ne_child (route : List String) (name : String) : [] ≠ route ++ [name] := by
  simp

/-- A choice for a further chain changes nothing at the chains that are done, nor at those they go
on from. -/
theorem update_at_done (hclosed : Closed done) (hnew : route ++ [name] ∉ done) {route' : List String}
    {name' : String} (hdone : route' ++ [name'] ∈ done) (σ : Choice) (seat : Option Nat) :
    Function.update σ (route ++ [name]) seat (route' ++ [name']) = σ (route' ++ [name']) ∧
      Function.update σ (route ++ [name]) seat route' = σ route' := by
  have hhere : route' ++ [name'] ≠ route ++ [name] := by
    intro h
    exact hnew (h ▸ hdone)
  have hbefore : route' ≠ route ++ [name] := by
    intro h
    exact hnew (h ▸ hclosed route' name' hdone)
  rw [Function.update_of_ne hhere, Function.update_of_ne hbefore]
  exact ⟨rfl, rfl⟩

/-- Going on from a choice that fits. -/
theorem Fits.extend (h : Fits g kind done σ) (hclosed : Closed done) (hnew : route ++ [name] ∉ done)
    (hseat : seat ∈ g.seats kind σ route name) :
    Fits g kind (done ++ [route ++ [name]]) (Function.update σ (route ++ [name]) seat) where
  unplanned := by
    intro route' hroute'
    rw [List.mem_append, List.mem_singleton, not_or] at hroute'
    rw [Function.update_of_ne hroute'.2]
    exact h.unplanned route' hroute'.1
  root := by
    obtain ⟨record, hlt, hrecord⟩ := h.root
    refine ⟨record, hlt, ?_⟩
    rw [Function.update_of_ne (nil_ne_child route name)]
    exact hrecord
  seated := by
    intro route' name' hdone
    rcases List.mem_append.mp hdone with hold | hlast
    -- neither a chain that is done nor the one before it is the new chain
    · obtain ⟨hhere, hbefore⟩ := update_at_done hclosed hnew hold σ seat
      rw [hhere, seats_congr hbefore]
      exact h.seated route' name' hold
    · obtain ⟨rfl, hname⟩ := List.append_inj' (List.mem_singleton.mp hlast) rfl
      obtain rfl : name' = name := List.singleton_inj.mp hname
      rw [Function.update_self, seats_congr (Function.update_of_ne (route_ne_child route' name') ..)]
      exact hseat

/-- Every choice that fits goes on from one that fitted before. -/
theorem Fits.restrict (h : Fits g kind (done ++ [route ++ [name]]) σ) (hclosed : Closed done)
    (hnew : route ++ [name] ∉ done) :
    Fits g kind done (Function.update σ (route ++ [name]) none) ∧
      σ (route ++ [name]) ∈ g.seats kind (Function.update σ (route ++ [name]) none) route name := by
  refine ⟨⟨?_, ?_, ?_⟩, ?_⟩
  · intro route' hroute'
    by_cases hsame : route' = route ++ [name]
    · rw [hsame, Function.update_self]
    · rw [Function.update_of_ne hsame]
      refine h.unplanned route' ?_
      rw [List.mem_append, List.mem_singleton, not_or]
      exact ⟨hroute', hsame⟩
  · obtain ⟨record, hlt, hrecord⟩ := h.root
    refine ⟨record, hlt, ?_⟩
    rw [Function.update_of_ne (nil_ne_child route name)]
    exact hrecord
  · intro route' name' hdone
    obtain ⟨hhere, hbefore⟩ := update_at_done hclosed hnew hdone σ none
    rw [hhere, seats_congr hbefore]
    exact h.seated route' name' (List.mem_append_left _ hdone)
  · rw [seats_congr (Function.update_of_ne (route_ne_child route name) ..)]
    exact h.seated route name (List.mem_append_right _ (List.mem_singleton.mpr rfl))

/-- One more loop keeps a list complete and free of repetitions: two extensions of one choice differ
at the new chain, and extensions of different choices differ where these do. -/
theorem Enumerates.extend (h : Enumerates g kind done found) (hclosed : Closed done)
    (hnew : route ++ [name] ∉ done) :
    Enumerates g kind (done ++ [route ++ [name]])
      (found.flatMap (g.extensions kind (route, name))) where
  nodup := by
    rw [List.nodup_flatMap]
    constructor
    · intro σ _
      exact (nodup_seats g kind σ route name).map (Function.update_injective σ _)
    · refine h.nodup.imp_of_mem fun {σ σ'} hσ hσ' hne => ?_
      refine List.disjoint_left.mpr ?_
      intro τ hτ hτ'
      obtain ⟨seat, -, rfl⟩ := List.mem_map.mp hτ
      obtain ⟨seat', -, hsame⟩ := List.mem_map.mp hτ'
      -- equal extensions come from choices that are equal elsewhere, and here both had none
      refine hne (funext fun route' => ?_)
      by_cases hhere : route' = route ++ [name]
      · rw [hhere, ((h.mem_iff σ).mp hσ).unplanned _ hnew, ((h.mem_iff σ').mp hσ').unplanned _ hnew]
      · have hat := congrFun hsame route'
        rw [Function.update_of_ne hhere, Function.update_of_ne hhere] at hat
        exact hat.symm
  mem_iff := by
    intro σ
    rw [List.mem_flatMap]
    constructor
    · rintro ⟨σ', hσ', hext⟩
      obtain ⟨seat, hseat, rfl⟩ := List.mem_map.mp hext
      exact ((h.mem_iff σ').mp hσ').extend hclosed hnew hseat
    · intro hfits
      -- what the choice was before this loop: the same without a record here
      obtain ⟨hbefore, hseat⟩ := hfits.restrict hclosed hnew
      refine ⟨_, (h.mem_iff _).mpr hbefore, List.mem_map.mpr ⟨_, hseat, ?_⟩⟩
      rw [Function.update_idem, Function.update_eq_self]

/-! ## All loops -/

/-- The loop over the records of the root. -/
theorem enumerates_rootChoices (g : RecordGraph) (kind : JoinKind) :
    Enumerates g kind [[]] g.rootChoices where
  nodup := by
    refine List.nodup_range.map fun record record' h => ?_
    have hroot := congrFun h []
    rw [Function.update_self, Function.update_self] at hroot
    exact Option.some.inj hroot
  mem_iff := by
    intro σ
    rw [rootChoices, List.mem_map]
    constructor
    · rintro ⟨record, hrecord, rfl⟩
      refine ⟨?_, ⟨record, List.mem_range.mp hrecord, Function.update_self ..⟩, ?_⟩
      · intro route hroute
        rw [Function.update_of_ne fun h => hroute (List.mem_singleton.mpr h)]
      · intro route name hdone
        exact absurd (List.mem_singleton.mp hdone).symm (nil_ne_child route name)
    · intro h
      obtain ⟨record, hlt, hrecord⟩ := h.root
      refine ⟨record, List.mem_range.mpr hlt, funext fun route => ?_⟩
      by_cases hroot : route = []
      · rw [hroot, Function.update_self, hrecord]
      · rw [Function.update_of_ne hroot]
        exact (h.unplanned route fun hmem => hroot (List.mem_singleton.mp hmem)).symm

theorem Closed.append (hclosed : Closed done) (hroute : route ∈ done) :
    Closed (done ++ [route ++ [name]]) := by
  intro route' name' hdone
  rcases List.mem_append.mp hdone with hold | hlast
  · exact List.mem_append_left _ (hclosed route' name' hold)
  · obtain ⟨rfl, -⟩ := List.append_inj' (List.mem_singleton.mp hlast) rfl
    exact List.mem_append_left _ hroute

/-- Loops that go on from a complete list end with a complete list. -/
theorem enumerates_foldl (h : Enumerates g kind done found) (hclosed : Closed done)
    (hordered : Ordered done steps) :
    Enumerates g kind (done ++ steps.map fun step => step.1 ++ [step.2])
      (steps.foldl (fun found step => found.flatMap (g.extensions kind step)) found) := by
  induction steps generalizing done found with
  | nil => rwa [List.map_nil, List.append_nil]
  | cons step rest ih =>
    obtain ⟨hroute, hnew, hrest⟩ := hordered
    have hall := ih (h.extend hclosed hnew) (hclosed.append hroute) hrest
    rwa [List.append_assoc] at hall

/-- Nested loops find every choice that fits, once. -/
theorem enumerates_choices (hordered : Ordered [[]] steps) :
    Enumerates g kind ([] :: steps.map fun step => step.1 ++ [step.2]) (g.choices kind steps) := by
  refine enumerates_foldl (enumerates_rootChoices g kind) ?_ hordered
  intro route name hdone
  exact absurd (List.mem_singleton.mp hdone).symm (nil_ne_child route name)

/-- The loops of a left join lose no choice, and none of them is for the root. -/
theorem exists_left_extension (hσ : σ ∈ found) :
    ∃ σ' ∈ steps.foldl (fun found step => found.flatMap (g.extensions .left step)) found,
      σ' [] = σ [] := by
  induction steps generalizing found σ with
  | nil => exact ⟨σ, hσ, rfl⟩
  | cons step rest ih =>
    obtain ⟨seat, hseat⟩ := List.exists_mem_of_ne_nil _ (turns_left_ne_nil
      (((σ step.1).map (g.partners step.1 step.2)).getD []))
    have hnext : Function.update σ (step.1 ++ [step.2]) seat ∈
        found.flatMap (g.extensions .left step) :=
      List.mem_flatMap.mpr ⟨σ, hσ, List.mem_map.mpr ⟨seat, hseat, rfl⟩⟩
    obtain ⟨σ', hσ', hroot⟩ := ih hnext
    refine ⟨σ', hσ', hroot.trans ?_⟩
    rw [Function.update_of_ne (nil_ne_child step.1 step.2)]

/-- In left joins every record of the root has a choice. -/
theorem exists_choice_of_root {record : Nat} (hrecord : record < (g.rowsAt []).length) :
    ∃ σ ∈ g.choices .left steps, σ [] = some record := by
  have hroot : Function.update (fun _ => none) [] (some record) ∈ g.rootChoices :=
    List.mem_map.mpr ⟨record, List.mem_range.mpr hrecord, rfl⟩
  obtain ⟨σ, hσ, heq⟩ := exists_left_extension hroot
  exact ⟨σ, hσ, heq.trans (Function.update_self ..)⟩

/-! ## Choices that fit a query -/

theorem mem_seats_inner : seat ∈ g.seats .inner σ route name ↔
    ∃ record partner, σ route = some record ∧ partner ∈ g.partners route name record ∧
      seat = some partner := by
  rw [seats, mem_turns_inner]
  cases σ route with
  | none => simp
  | some record => simp

theorem fits_inner_iff : Fits g .inner spec.routes σ ↔ Inner g spec σ := by
  constructor
  · intro h
    refine ⟨h.unplanned, h.root, ?_⟩
    intro route name hroute
    exact mem_seats_inner.mp (h.seated route name hroute)
  · intro h
    refine ⟨h.unplanned, h.root, ?_⟩
    intro route name hroute
    exact mem_seats_inner.mpr (h.linked route name hroute)

theorem mem_seats_left {record : Nat} (h : σ route = some record) :
    seat ∈ g.seats .left σ route name ↔
      (∃ partner ∈ g.partners route name record, seat = some partner) ∨
        g.partners route name record = [] ∧ seat = none := by
  rw [seats, h]
  exact mem_turns_left

theorem mem_seats_absent (h : σ route = none) :
    seat ∈ g.seats .left σ route name ↔ seat = none := by
  rw [seats, h]
  exact List.mem_singleton

theorem fits_left_iff : Fits g .left spec.routes σ ↔ Outer g spec σ := by
  constructor
  · intro h
    refine ⟨h.unplanned, h.root, ?_, ?_⟩
    · intro route name record hroute hrecord
      exact (mem_seats_left hrecord).mp (h.seated route name hroute)
    · intro route name hroute hnone
      exact (mem_seats_absent hnone).mp (h.seated route name hroute)
  · intro h
    refine ⟨h.unplanned, h.root, ?_⟩
    intro route name hroute
    cases hrecord : σ route with
    | none => exact (mem_seats_absent hrecord).mpr (h.absent route name hroute hrecord)
    | some record =>
      exact (mem_seats_left hrecord).mpr (h.linked route name record hroute hrecord)

/-- The choices of inner joins are the choices of left joins that have a record for every chain. -/
theorem inner_iff_outer_complete : Inner g spec σ ↔ Outer g spec σ ∧ complete spec σ = true := by
  rw [complete, List.all_eq_true]
  constructor
  · intro h
    refine ⟨⟨h.unplanned, h.root, ?_, ?_⟩, ?_⟩
    · intro route name record hroute hrecord
      obtain ⟨record', partner, hrecord', hpartner, hchild⟩ := h.linked route name hroute
      obtain rfl : record' = record := Option.some.inj (hrecord'.symm.trans hrecord)
      exact Or.inl ⟨partner, hpartner, hchild⟩
    · intro route name hroute hnone
      obtain ⟨record, partner, hrecord, -⟩ := h.linked route name hroute
      rw [hnone] at hrecord
      cases hrecord
    · intro route hroute
      rcases List.eq_nil_or_concat route with rfl | ⟨before, name, rfl⟩
      · obtain ⟨record, -, hrecord⟩ := h.root
        rw [hrecord]
        rfl
      · rw [List.concat_eq_append] at hroute ⊢
        obtain ⟨record, partner, -, -, hchild⟩ := h.linked before name hroute
        rw [hchild]
        rfl
  · rintro ⟨h, hcomplete⟩
    refine ⟨h.unplanned, h.root, ?_⟩
    intro route name hroute
    obtain ⟨record, hrecord⟩ := Option.isSome_iff_exists.mp
      (hcomplete route (QuerySpec.mem_routes_of_prefix (List.prefix_append _ _) hroute))
    -- a complete choice has a record here, so the chain was not left empty
    rcases h.linked route name record hroute hrecord with ⟨partner, hpartner, hchild⟩ | ⟨-, hnone⟩
    · exact ⟨record, partner, hrecord, hpartner, hchild⟩
    · have hchild := hcomplete _ hroute
      rw [hnone] at hchild
      cases hchild

end DottedQuery.RecordGraph
