/-
# DottedQuery.Proofs.Store.Partition -- filters on a requested field partition the answer

A further filter on a field that is requested needs no further table, so the choices of the query with
the filter are those of the query that meet it. If several such filters are alternatives, which is that
every cell meets exactly one of their conditions, their answers share out the rows of the query: no row
is lost and none is given twice (`partition_of_plan`).

What is shared out are the occurrences of rows, told apart by the records that they are of. Two rows
with the same values may go to different answers, since a value can be read from different cells: 1 and
2 are both true where a truth value is read.
-/
import DottedQuery.Proofs.Plan.Extension
import DottedQuery.Proofs.Store.Execution
import DottedQuery.Proofs.Store.Hosting
import DottedQuery.Proofs.Store.Ranks

namespace DottedQuery

open Sql (JoinKind)
open Store (Manner StoreError tableLimit)

/-! ## Sharing out a list -/

section Sharing

variable {α β : Type} {meets : β → α → Bool} {xs : List α} {conditions : List β}
  {parts : List (List α)}

/-- The entries of a list that meet a condition, each once. -/
def Selects (meets : β → α → Bool) (xs : List α) (condition : β) (part : List α) : Prop :=
  part.Nodup ∧ ∀ x, x ∈ part ↔ x ∈ xs ∧ meets condition x = true

/-- If no entry meets two conditions, what they select has nothing in common. -/
theorem pairwise_disjoint (hparts : List.Forall₂ (Selects meets xs) conditions parts)
    (hmost : ∀ x ∈ xs, conditions.countP (meets · x) ≤ 1) : parts.Pairwise List.Disjoint := by
  induction hparts with
  | nil => exact .nil
  | @cons condition part conditions parts hpart hrest ih =>
    refine .cons ?_ (ih fun x hx => ?_)
    · intro part' hpart' x hx hx'
      obtain ⟨condition', hcondition', -, hmem'⟩ := exists_partner hrest hpart'
      obtain ⟨hxs, hmeets⟩ := (hpart.2 x).mp hx
      obtain ⟨-, hmeets'⟩ := (hmem' x).mp hx'
      -- the entry would meet two conditions
      have htwo := hmost x hxs
      rw [List.countP_cons, if_pos hmeets] at htwo
      have hpos : 0 < conditions.countP (meets · x) :=
        List.countP_pos_iff.mpr ⟨condition', hcondition', hmeets'⟩
      omega
    · exact (List.sublist_cons_self condition conditions).countP_le.trans (hmost x hx)

/-- If every entry meets exactly one condition, what they select is the whole list. -/
theorem flatten_perm (hxs : xs.Nodup) (hparts : List.Forall₂ (Selects meets xs) conditions parts)
    (hone : ∀ x ∈ xs, conditions.countP (meets · x) = 1) : parts.flatten.Perm xs := by
  have hdisjoint := pairwise_disjoint hparts fun x hx => (hone x hx).le
  have hnodup : parts.flatten.Nodup := by
    refine List.nodup_flatten.mpr ⟨fun part hpart => ?_, hdisjoint⟩
    obtain ⟨condition, -, hnodup, -⟩ := exists_partner hparts hpart
    exact hnodup
  refine (List.perm_ext_iff_of_nodup hnodup hxs).mpr fun x => ?_
  rw [List.mem_flatten]
  constructor
  · rintro ⟨part, hpart, hx⟩
    obtain ⟨condition, -, -, hmem⟩ := exists_partner hparts hpart
    exact ((hmem x).mp hx).1
  · intro hx
    have hpos : 0 < conditions.countP (meets · x) := by
      rw [hone x hx]
      exact Nat.one_pos
    obtain ⟨condition, hcondition, hmeets⟩ := List.countP_pos_iff.mp hpos
    obtain ⟨part, hpart, -, hmem⟩ := exists_partner hparts.flip hcondition
    exact ⟨part, hpart, (hmem x).mpr ⟨hx, hmeets⟩⟩

end Sharing

/-! ## One further filter -/

variable {c : Catalog} {db : Store.Database} {g : RecordGraph} {kind : JoinKind}
  {spec spec' : QuerySpec} {p p' : Plan} {start start' : Entity} {σ : Choice} {path : FieldPath}
  {filter : FilterSpec} {condition : Condition} {r : Resolution} {choices : List Choice}
  {rows : List (List Value)}

/-- How the cells at the end of a path compare. -/
def RecordGraph.mannerOf (g : RecordGraph) (path : FieldPath) : Manner :=
  g.mannerAt path.relationships path.field

/-- Whether a choice has a cell at the end of a path that meets a condition. -/
def RecordGraph.meets (g : RecordGraph) (path : FieldPath) (condition : Condition) (σ : Choice) :
    Bool :=
  condition.holds (g.mannerOf path) (g.cellAt σ path.relationships path.field)

/-- A filter holds if its condition is met. -/
theorem RecordGraph.holds_iff (hr : g.catalog.resolve g.root filter.path = .ok r)
    (hcondition : filter.condition r.field.dataType = .ok condition) :
    g.Holds σ filter ↔ g.meets filter.path condition σ = true := by
  have hfield := fieldAt?_of_resolve hr
  rw [meets, Condition.holds, decide_eq_true_iff]
  constructor
  · rintro ⟨f, condition', hf, hcondition', htruth⟩
    cases hfield.symm.trans hf
    cases hcondition.symm.trans hcondition'
    exact htruth
  · intro htruth
    exact ⟨r.field, condition, hfield, hcondition, htruth⟩

/-- A further filter on a path of the query adds no path. -/
theorem QuerySpec.mem_paths_filteredBy (hpath : filter.path ∈ spec.paths) (path : FieldPath) :
    path ∈ (spec.filteredBy [filter]).paths ↔ path ∈ spec.paths := by
  rw [QuerySpec.paths_filteredBy, List.map_singleton, List.mem_append, List.mem_singleton]
  exact or_iff_left_of_imp fun heq => heq ▸ hpath

/-- Queries with the same chains have plans with as many tables. -/
theorem Catalog.Planned.length_nodes_eq (h : Catalog.Planned c spec p start)
    (h' : Catalog.Planned c spec' p' start')
    (hroutes : ∀ route, route ∈ spec'.routes ↔ route ∈ spec.routes) :
    p'.joins.nodes.length = p.joins.nodes.length := by
  have hperm : p'.joins.routes.Perm p.joins.routes := by
    refine (List.perm_ext_iff_of_nodup h'.grounded.sound.distinct h.grounded.sound.distinct).mpr ?_
    intro route
    rw [h'.mem_routes, hroutes, h.mem_routes]
  have hlength := hperm.length_eq
  rwa [JoinTree.routes, JoinTree.routes, List.length_map, List.length_map] at hlength

/-- The choices of a query. -/
structure RecordGraph.ChoicesOf (g : RecordGraph) (kind : JoinKind) (spec : QuerySpec)
    (choices : List Choice) : Prop where
  nodup : choices.Nodup
  mem_iff : ∀ σ, σ ∈ choices ↔ Fits g kind spec.routes σ ∧ ∀ filter ∈ spec.filters, g.Holds σ filter

open RecordGraph

/-- The answer to a query with a further filter on one of its paths has the rows of the choices that
meet the condition of the filter. -/
theorem exists_part (hb : (spec.graph c db).Backed spec p start)
    (hlimit : ¬tableLimit < p.joins.nodes.length) (hpath : filter.path ∈ spec.paths)
    (hr : c.resolve spec.table filter.path = .ok r)
    (hcondition : filter.condition r.field.dataType = .ok condition)
    (hp' : c.plan (spec.filteredBy [filter]) = .ok p')
    (hchoices : (spec.graph c db).ChoicesOf kind spec choices) :
    ∃ part, Selects ((spec.graph c db).meets filter.path) choices condition part ∧
      db.execute kind p' = .ok (part.map ((spec.graph c db).row spec)) := by
  obtain ⟨start', h'⟩ := Catalog.plan_spec hp'
  have hpaths := QuerySpec.mem_paths_filteredBy hpath
  have hroutes : ∀ route, route ∈ (spec.filteredBy [filter]).routes ↔ route ∈ spec.routes := by
    intro route
    exact ⟨QuerySpec.routes_mono fun path => (hpaths path).mp,
      QuerySpec.routes_mono fun path => (hpaths path).mpr⟩
  have hlimit' : ¬tableLimit < p'.joins.nodes.length := by
    rwa [Catalog.Planned.length_nodes_eq hb.planned h' hroutes]
  have hosts' : (spec.graph c db).Hosts (spec.filteredBy [filter]) :=
    hb.hosts.mono fun path => (hpaths path).mp
  obtain ⟨part, hnodup, hmem, hrows⟩ :=
    exists_choices (g := spec.graph c db) ⟨h', rfl, hosts'⟩ kind hlimit'
  refine ⟨part, ⟨hnodup, fun σ => ?_⟩, hrows⟩
  have hfits : Fits (spec.graph c db) kind (spec.filteredBy [filter]).routes σ ↔
      Fits (spec.graph c db) kind spec.routes σ :=
    ⟨Fits.congr hroutes, Fits.congr fun route => (hroutes route).symm⟩
  rw [hmem, hfits, hchoices.mem_iff, QuerySpec.filteredBy, List.forall_mem_append,
    List.forall_mem_singleton, holds_iff hr hcondition, and_assoc]

/-! ## Alternatives -/

/-- Answers partition an answer: the rows of each are those of a part of its choices, no choice is in
two parts, and every choice is in one. -/
structure RecordGraph.Partition (g : RecordGraph) (kind : JoinKind) (spec : QuerySpec)
    (rows : List (List Value)) (answers : List (Except StoreError (List (List Value))))
    (choices : List Choice) (parts : List (List Choice)) : Prop where
  choices_of : g.ChoicesOf kind spec choices
  rows_eq : rows = choices.map (g.row spec)
  answers_eq : answers = parts.map fun part => .ok (part.map (g.row spec))
  disjoint : parts.Pairwise List.Disjoint
  flatten_perm : parts.flatten.Perm choices

/-- The rows of the answers together are the rows of the answer, each as often as there. -/
theorem RecordGraph.Partition.rows_perm {shares : List (List (List Value))} {parts : List (List Choice)}
    (h : g.Partition kind spec rows (shares.map .ok) choices parts) : shares.flatten.Perm rows := by
  have hshares : shares = parts.map (·.map (g.row spec)) := by
    refine List.map_injective_iff.mpr (fun _ _ => Except.ok.inj) (h.answers_eq.trans ?_)
    rw [List.map_map]
    rfl
  rw [hshares, h.rows_eq, ← List.map_flatten]
  exact h.flatten_perm.map _

/-- The answer to a query with a further filter on a path, which puts a condition on it. -/
def FilteredAnswer (c : Catalog) (db : Store.Database) (kind : JoinKind) (spec : QuerySpec)
    (path : FieldPath) (dataType : DataType) (condition : Condition)
    (answer : Except StoreError (List (List Value))) : Prop :=
  ∃ filter p', filter.path = path ∧ filter.condition dataType = .ok condition ∧
    c.plan (spec.filteredBy [filter]) = .ok p' ∧ answer = db.execute kind p'

/-- The answers to a query with one further filter each have the rows of parts of its choices. -/
theorem exists_parts (hb : (spec.graph c db).Backed spec p start)
    (hlimit : ¬tableLimit < p.joins.nodes.length) (hpath : path ∈ spec.paths)
    (hr : c.resolve spec.table path = .ok r)
    (hchoices : (spec.graph c db).ChoicesOf kind spec choices) {conditions : List Condition}
    {answers : List (Except StoreError (List (List Value)))}
    (hanswers : List.Forall₂ (FilteredAnswer c db kind spec path r.field.dataType) conditions
      answers) :
    ∃ parts, List.Forall₂ (Selects ((spec.graph c db).meets path) choices) conditions parts ∧
      answers = parts.map fun part => .ok (part.map ((spec.graph c db).row spec)) := by
  induction hanswers with
  | nil => exact ⟨[], .nil, rfl⟩
  | cons hanswer _ ih =>
    obtain ⟨filter, p', rfl, hcondition, hp', rfl⟩ := hanswer
    obtain ⟨part, hpart, hexecute⟩ := exists_part hb hlimit hpath hr hcondition hp' hchoices
    obtain ⟨parts, hparts, rfl⟩ := ih
    exact ⟨part :: parts, .cons hpart hparts, by rw [hexecute, List.map_cons]⟩

/-- The rows that answer a plan are those of the choices of its query. -/
theorem exists_choicesOf (hp : c.plan spec = .ok p) (hrows : db.execute kind p = .ok rows) :
    ∃ start choices, (spec.graph c db).Backed spec p start ∧ ¬tableLimit < p.joins.nodes.length ∧
      (spec.graph c db).ChoicesOf kind spec choices ∧ rows = choices.map ((spec.graph c db).row spec) := by
  obtain ⟨start, h⟩ := Catalog.plan_spec hp
  obtain ⟨hosts, hlimit⟩ :=
    (execute_succeeds_iff (g := spec.graph c db) h rfl kind).mp ⟨rows, hrows⟩
  have hb : (spec.graph c db).Backed spec p start := ⟨h, rfl, hosts⟩
  obtain ⟨choices, hnodup, hmem, hall⟩ := exists_choices hb kind hlimit
  exact ⟨start, choices, hb, hlimit, ⟨hnodup, hmem⟩, Except.ok.inj (hrows.symm.trans hall)⟩

/-- Filters on a path of a query whose conditions are alternatives partition its answer. -/
theorem partition_of_alternatives (hp : c.plan spec = .ok p) (hpath : path ∈ spec.paths)
    (hr : c.resolve spec.table path = .ok r) {conditions : List Condition}
    {answers : List (Except StoreError (List (List Value)))}
    (hanswers : List.Forall₂ (FilteredAnswer c db kind spec path r.field.dataType) conditions answers)
    (halternatives : Condition.Alternatives ((spec.graph c db).mannerOf path) conditions)
    (hrows : db.execute kind p = .ok rows) :
    ∃ choices parts, (spec.graph c db).Partition kind spec rows answers choices parts := by
  obtain ⟨start, choices, hb, hlimit, hchoices, rfl⟩ := exists_choicesOf hp hrows
  obtain ⟨parts, hparts, hparted⟩ := exists_parts hb hlimit hpath hr hchoices hanswers
  have hone : ∀ σ ∈ choices, conditions.countP ((spec.graph c db).meets path · σ) = 1 :=
    fun σ _ => halternatives _
  exact ⟨choices, parts, hchoices, rfl, hparted,
    pairwise_disjoint hparts fun σ hσ => (hone σ hσ).le, flatten_perm hchoices.nodup hparts hone⟩

/-! ## Operators that leave nothing out -/

/-- A filter that compares and can be planned puts a comparison with its operand on the field. -/
theorem exists_operand_of_plan {operator : Operator} {v : Value} {comparison : Comparison}
    {operandOf : DataType → Value → Except Expectation Value} (hp : c.plan spec = .ok p)
    (hr : c.resolve spec.table path = .ok r)
    (hoperator : Condition.comparisonOf operator = some (comparison, operandOf))
    (hp' : c.plan (spec.filteredBy [⟨path, operator, v⟩]) = .ok p') :
    ∃ a, operandOf r.field.dataType v = .ok a ∧ ∀ db kind,
      FilteredAnswer c db kind spec path r.field.dataType (.compare comparison a)
        (db.execute kind p') := by
  obtain ⟨condition, hcondition⟩ := (Catalog.exists_plan_filteredBy_iff hp hr).mp ⟨p', hp'⟩
  obtain ⟨a, ha, rfl⟩ := Condition.exists_operand hoperator (mapError_succeeds.mp hcondition)
  exact ⟨a, ha, fun db kind => ⟨_, p', rfl, hcondition, hp', rfl⟩⟩

/-- A test for null on a path can always be planned. -/
theorem exists_null_of_plan (hp : c.plan spec = .ok p) (hr : c.resolve spec.table path = .ok r) :
    ∃ p', c.plan (spec.filteredBy [⟨path, .null, .bool true⟩]) = .ok p' ∧ ∀ db kind,
      FilteredAnswer c db kind spec path r.field.dataType .isNull (db.execute kind p') := by
  have hplan : ∃ p', c.plan (spec.filteredBy [⟨path, .null, .bool true⟩]) = .ok p' :=
    (Catalog.exists_plan_filteredBy_iff hp hr).mpr ⟨.isNull, rfl⟩
  obtain ⟨p', hp'⟩ := hplan
  exact ⟨p', hp', fun db kind => ⟨_, p', rfl, rfl, hp', rfl⟩⟩

/-- If `exactly` and `not` take an operand for a requested field, `exactly`, `not` and the test for null
partition the answer to the query. If `less_than` and `greater_than` take it too, so do they in the
place of `not`. The operand may be anything but a double that is no number. -/
theorem partition_of_plan {v : Value} {equal different : Plan} (hp : c.plan spec = .ok p)
    (hpath : path ∈ spec.fields.map (·.path)) (hv : ∀ x, v = .float x → x.isNaN = false)
    (hequal : c.plan (spec.filteredBy [⟨path, .exactly, v⟩]) = .ok equal)
    (hdifferent : c.plan (spec.filteredBy [⟨path, .not, v⟩]) = .ok different) :
    ∃ absent, c.plan (spec.filteredBy [⟨path, .null, .bool true⟩]) = .ok absent ∧
      (∀ (db : Store.Database) (kind : JoinKind) (rows : List (List Value)),
        db.execute kind p = .ok rows →
        ∃ choices parts, (spec.graph c db).Partition kind spec rows
          [db.execute kind equal, db.execute kind different, db.execute kind absent] choices parts) ∧
      ∀ less greater, c.plan (spec.filteredBy [⟨path, .lessThan, v⟩]) = .ok less →
        c.plan (spec.filteredBy [⟨path, .greaterThan, v⟩]) = .ok greater →
        ∀ (db : Store.Database) (kind : JoinKind) (rows : List (List Value)),
          db.execute kind p = .ok rows →
          ∃ choices parts, (spec.graph c db).Partition kind spec rows
            [db.execute kind equal, db.execute kind less, db.execute kind greater,
              db.execute kind absent] choices parts := by
  obtain ⟨start, h⟩ := Catalog.plan_spec hp
  have hmem : path ∈ spec.paths := List.mem_append_left _ hpath
  obtain ⟨r, hr⟩ := h.exists_resolution hmem
  obtain ⟨a, ha, hequal⟩ := exists_operand_of_plan hp hr rfl hequal
  have hproper := Condition.proper_of_equalityOperand ha hv
  obtain ⟨absent, habsent, hnull⟩ := exists_null_of_plan hp hr
  refine ⟨absent, habsent, ?_, ?_⟩
  · intro db kind rows hrows
    obtain ⟨a', ha', hdifferent⟩ := exists_operand_of_plan hp hr rfl hdifferent
    cases ha.symm.trans ha'
    exact partition_of_alternatives hp hmem hr
      (.cons (hequal db kind) (.cons (hdifferent db kind) (.cons (hnull db kind) .nil)))
      (Condition.alternatives_of_comparisons Condition.countP_equal_different hproper _) hrows
  · intro less greater hless hgreater db kind rows hrows
    obtain ⟨b, hb, hless⟩ := exists_operand_of_plan hp hr rfl hless
    obtain ⟨b', hb', hgreater⟩ := exists_operand_of_plan hp hr rfl hgreater
    -- all comparisons are with one operand
    cases hb.symm.trans hb'
    obtain rfl := Condition.operand_eq ha hb
    exact partition_of_alternatives hp hmem hr
      (.cons (hequal db kind) (.cons (hless db kind) (.cons (hgreater db kind)
        (.cons (hnull db kind) .nil))))
      (Condition.alternatives_of_comparisons Condition.countP_equal_less_greater hproper _) hrows

namespace Staff

/-- All names, with those of the superiors. -/
def superiors : QuerySpec where
  table := "person"
  fields := [⟨ownName, none⟩, ⟨bossName, none⟩]
  filters := []

/-- Of four rows one has Ann for the superior, one somebody who comes after Ann, and two nobody. -/
theorem partition_of_plan_superiors : ∃ p rows, catalog.plan superiors = .ok p ∧
    database.execute .left p = .ok rows ∧
    List.Perm [[.text "Bob", .text "Ann"], [.text "Cy", .text "Bob"], [.text "Ann", .null],
      [.text "Dee", .null]] rows ∧
    ∃ choices parts, (superiors.graph catalog database).Partition .left superiors rows
      [.ok [[.text "Bob", .text "Ann"]], .ok [], .ok [[.text "Cy", .text "Bob"]],
        .ok [[.text "Ann", .null], [.text "Dee", .null]]] choices parts := by
  obtain ⟨p, rows, hp, hrows⟩ : ∃ p rows, catalog.plan superiors = .ok p ∧
      database.execute .left p = .ok rows := ⟨_, _, rfl, rfl⟩
  obtain ⟨equal, hequal, hann⟩ : ∃ equal,
      catalog.plan (superiors.filteredBy [⟨bossName, .exactly, .text "Ann"⟩]) = .ok equal ∧
      database.execute .left equal = .ok [[.text "Bob", .text "Ann"]] := ⟨_, rfl, rfl⟩
  obtain ⟨different, hdifferent, hother⟩ : ∃ different,
      catalog.plan (superiors.filteredBy [⟨bossName, .not, .text "Ann"⟩]) = .ok different ∧
      database.execute .left different = .ok [[.text "Cy", .text "Bob"]] := ⟨_, rfl, rfl⟩
  obtain ⟨less, hless, hbefore⟩ : ∃ less,
      catalog.plan (superiors.filteredBy [⟨bossName, .lessThan, .text "Ann"⟩]) = .ok less ∧
      database.execute .left less = .ok [] := ⟨_, rfl, rfl⟩
  obtain ⟨greater, hgreater, hafter⟩ : ∃ greater,
      catalog.plan (superiors.filteredBy [⟨bossName, .greaterThan, .text "Ann"⟩]) = .ok greater ∧
      database.execute .left greater = .ok [[.text "Cy", .text "Bob"]] := ⟨_, rfl, rfl⟩
  obtain ⟨absent', habsent', hnobody⟩ : ∃ absent,
      catalog.plan (superiors.filteredBy [⟨bossName, .null, .bool true⟩]) = .ok absent ∧
      database.execute .left absent = .ok [[.text "Ann", .null], [.text "Dee", .null]] :=
    ⟨_, rfl, rfl⟩
  have hnumber : ∀ x, Value.text "Ann" = .float x → x.isNaN = false := by
    intro x hx
    cases hx
  obtain ⟨absent, habsent, hthree, hfour⟩ := partition_of_plan hp
    (List.mem_cons_of_mem _ List.mem_cons_self) hnumber hequal hdifferent
  cases habsent.symm.trans habsent'
  have hpartition := hthree database .left rows hrows
  have hpartition' := hfour less greater hless hgreater database .left rows hrows
  rw [hann, hother, hnobody] at hpartition
  rw [hann, hbefore, hafter, hnobody] at hpartition'
  obtain ⟨choices, parts, hparts⟩ := hpartition
  have hshares : (superiors.graph catalog database).Partition .left superiors rows
      (List.map .ok [[[.text "Bob", .text "Ann"]], [[.text "Cy", .text "Bob"]],
        [[.text "Ann", .null], [.text "Dee", .null]]]) choices parts := hparts
  exact ⟨p, rows, hp, hrows, hshares.rows_perm, hpartition'⟩

end Staff

end DottedQuery
