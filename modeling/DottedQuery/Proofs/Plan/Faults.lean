/-
# DottedQuery.Proofs.Plan.Faults -- which queries have no plan, and why

A query can be faulty in several places. `faults` lists what is wrong with each place, looked at by
itself: nothing is requested, the root is unknown, the path of a field does not resolve, the path of a
filter does not resolve or its operand does not suit the field. The order of the list is that of the
checks.

Planning has a tree in its hands that each field and each filter makes larger. It fails exactly if the
list is not empty, and with its first entry (`plan_outcome`): the tree has no say in it. An engine gives
the same fault back, and whatever answers plans for it is not asked.
-/
import DottedQuery.Engine
import DottedQuery.Proofs.Plan.PrefixTree

namespace DottedQuery

variable {ε α β : Type}

/-! ## The fault of a step -/

/-- The fault of a step, if it fails. -/
def faultOf : Except ε α → List ε
  | .error fault => [fault]
  | .ok _ => []

theorem head?_faultOf_iff {step : Except ε α} {fault : ε} :
    (faultOf step).head? = some fault ↔ step = .error fault := by
  cases step with
  | error fault' => rw [faultOf, List.head?_cons, Option.some.injEq, Except.error.injEq]
  | ok a => simp [faultOf]

theorem faultOf_map (f : α → β) (step : Except ε α) : faultOf (step.map f) = faultOf step := by
  cases step with
  | error fault => rfl
  | ok a => rfl

/-- The first fault of two steps in a row is that of the first, or else that of the second. -/
theorem head?_faultOf_bind {step : Except ε α} {next : α → Except ε β} (later : List ε)
    (h : ∀ a, step = .ok a → (faultOf (next a)).head? = later.head?) :
    (faultOf (step >>= next)).head? = (faultOf step ++ later).head? := by
  cases step with
  | error fault => rfl
  | ok a => exact h a rfl

/-- The first fault of a list of steps is the first one that any of them has by itself. -/
theorem head?_faultOf_mapM (step : α → Except ε β) (xs : List α) :
    (faultOf (xs.mapM step)).head? = (xs.flatMap fun x => faultOf (step x)).head? := by
  induction xs with
  | nil => rfl
  | cons x xs ih =>
    rw [List.mapM_cons, List.flatMap_cons]
    refine head?_faultOf_bind _ fun y _ => ?_
    rw [← ih, head?_faultOf_bind [] fun ys _ => rfl, List.append_nil]

namespace Catalog

variable {c : Catalog} {root : String} {spec : QuerySpec} {p : Plan}

/-! ## The faults of a query -/

/-- What is wrong with a field: its path may not resolve. -/
def fieldFaults (c : Catalog) (root : String) (field : FieldSpec) : List PlanError :=
  faultOf (c.resolve root field.path)

/-- What is wrong with a filter: its path may not resolve, or else the operand may not suit the field
that it resolves to. -/
def filterFaults (c : Catalog) (root : String) (filter : FilterSpec) : List PlanError :=
  match c.resolve root filter.path with
  | .error fault => [fault]
  | .ok r => faultOf (filter.condition r.field.dataType)

/-- What is wrong with a query, in the order in which it is checked. -/
def faults (c : Catalog) (spec : QuerySpec) : List PlanError :=
  (if spec.fields.isEmpty then [.noFields] else []) ++ faultOf (c.requireEntity spec.table) ++
    spec.fields.flatMap (c.fieldFaults spec.table) ++ spec.filters.flatMap (c.filterFaults spec.table)

/-- Nothing is wrong with a query: something is requested, the root is known, all paths resolve, and
every operand suits the field at the end of its path. -/
structure Accepts (c : Catalog) (spec : QuerySpec) : Prop where
  nonempty : spec.fields ≠ []
  root : ∃ start, c.entity? spec.table = some start
  fields : ∀ field ∈ spec.fields, ∃ r, c.resolve spec.table field.path = .ok r
  filters : ∀ filter ∈ spec.filters, ∃ r condition, c.resolve spec.table filter.path = .ok r ∧
    filter.condition r.field.dataType = .ok condition

theorem faultOf_resolveField (root : String) (field : FieldSpec) :
    faultOf (c.resolveField root field) = c.fieldFaults root field := by
  unfold resolveField fieldFaults
  cases c.resolve root field.path with
  | error fault => rfl
  | ok r => rfl

theorem faultOf_resolveFilter (root : String) (filter : FilterSpec) :
    faultOf (c.resolveFilter root filter) = c.filterFaults root filter := by
  unfold resolveFilter filterFaults
  cases c.resolve root filter.path with
  | error fault => rfl
  | ok r => exact faultOf_map (·, r) (filter.condition r.field.dataType)

/-! ## One entry on any tree -/

/-- What is wrong with a field is wrong on every tree. -/
theorem faultOf_planField (t : JoinTree) (field : FieldSpec) :
    faultOf (c.planField root t field) = c.fieldFaults root field := by
  rw [planField_eq, faultOf_map, faultOf_resolveField]

/-- What is wrong with a filter is wrong on every tree. -/
theorem faultOf_planFilter (t : JoinTree) (filter : FilterSpec) :
    faultOf (c.planFilter root t filter) = c.filterFaults root filter := by
  rw [planFilter_eq, faultOf_map, faultOf_resolveFilter]

/-! ## The whole query -/

theorem accepts_iff : c.Accepts spec ↔ ∃ p, c.plan spec = .ok p := by
  rw [exists_plan_iff]
  constructor
  · intro h
    refine ⟨h.nonempty, h.root, ?_, ?_⟩
    · intro field hfield
      obtain ⟨r, hr⟩ := h.fields field hfield
      exact ⟨(field, r), resolveField_eq_ok_iff.mpr ⟨rfl, hr⟩⟩
    · intro filter hfilter
      obtain ⟨r, condition, hr⟩ := h.filters filter hfilter
      exact ⟨(condition, r), resolveFilter_eq_ok_iff.mpr hr⟩
  · rintro ⟨hnonempty, hroot, hfields, hfilters⟩
    refine ⟨hnonempty, hroot, ?_, ?_⟩
    · intro field hfield
      obtain ⟨entry, hentry⟩ := hfields field hfield
      exact ⟨entry.2, (resolveField_eq_ok_iff.mp hentry).2⟩
    · intro filter hfilter
      obtain ⟨entry, hentry⟩ := hfilters filter hfilter
      exact ⟨entry.2, entry.1, resolveFilter_eq_ok_iff.mp hentry⟩

/-- The fault of a query is the first of what is wrong with it. -/
theorem head?_faultOf_plan (c : Catalog) (spec : QuerySpec) :
    (faultOf (c.plan spec)).head? = (c.faults spec).head? := by
  rw [plan_eq, faults, List.append_assoc, List.append_assoc]
  split
  · rfl
  rw [List.nil_append]
  refine head?_faultOf_bind _ fun start _ => ?_
  -- the fields and then the filters, each list with the faults of its entries
  rw [head?_faultOf_bind (spec.filters.flatMap (c.filterFaults spec.table)), List.head?_append,
    head?_faultOf_mapM, List.head?_append]
  · simp only [faultOf_resolveField]
  · intro fields _
    rw [head?_faultOf_bind [] fun filters _ => rfl, List.append_nil, head?_faultOf_mapM]
    simp only [faultOf_resolveFilter]

/-! ## Refused queries -/

/-- A query is refused: whoever serves it gives the fault back and has not asked for any answer. -/
structure Refused (c : Catalog) (spec : QuerySpec) (fault : PlanError) : Prop where
  unasked : ∀ {ε α : Type} {m : Type → Type} [Monad m] (answer : Plan → m (Except ε (List NativeRow)))
    (shape : Plan → List NativeRow → Except WidthError α),
    c.serve answer shape spec = pure (.error (.plan fault))
  run : ∀ {ε : Type} (e : Engine ε), e.catalog = c → e.run spec = .error (.plan fault)
  runRaw : ∀ {ε : Type} (e : Engine ε), e.catalog = c → e.runRaw spec = .error (.plan fault)

theorem refused_of_plan {fault : PlanError} (h : c.plan spec = .error fault) :
    Refused c spec fault where
  unasked := by
    intro ε α m _ answer shape
    rw [serve, h]
  run := by
    rintro ε e rfl
    rw [Engine.run, Engine.result, serve, h]
    rfl
  runRaw := by
    rintro ε e rfl
    rw [Engine.runRaw, Engine.result, serve, h]
    rfl

/-- A query has a plan exactly when nothing is wrong with it, and otherwise planning fails with the
first thing that is. What is wrong with a field or a filter does not depend on the tree that was planned
before it. A query without plan is refused. -/
theorem plan_outcome (c : Catalog) (spec : QuerySpec) :
    ((∃ p, c.plan spec = .ok p) ↔ c.Accepts spec) ∧
      (∀ fault, c.plan spec = .error fault ↔ (c.faults spec).head? = some fault) ∧
      (∀ t, (∀ field, faultOf (c.planField spec.table t field) = c.fieldFaults spec.table field) ∧
        ∀ filter, faultOf (c.planFilter spec.table t filter) = c.filterFaults spec.table filter) ∧
      ∀ fault, c.plan spec = .error fault → Refused c spec fault := by
  refine ⟨accepts_iff.symm, ?_, ?_, fun fault => refused_of_plan⟩
  · intro fault
    rw [← head?_faultOf_iff, head?_faultOf_plan]
  · intro t
    exact ⟨fun field => faultOf_planField t field, fun filter => faultOf_planFilter t filter⟩

end Catalog

namespace Staff

/-- Two things are wrong: a person has no salary, and whether a name is null is not a number. -/
def flawed : QuerySpec where
  table := "person"
  fields := [⟨ownName, none⟩, ⟨⟨["boss"], "salary", by decide⟩, none⟩]
  filters := [⟨bossName, .null, .int 1⟩]

/-- Answers every plan with no rows, and counts how often it is asked. -/
def counted (_ : Plan) : StateM Nat (Except Unit (List NativeRow)) := do
  modify (· + 1)
  return .ok []

/-- The field is checked first, and nobody is asked for rows. -/
theorem plan_outcome_flawed : ∃ fault, catalog.plan flawed = .error fault ∧
    (catalog.faults flawed).length = 2 ∧ (catalog.faults flawed).head? = some fault ∧
    fault.message = "Unknown field 'salary' on entity 'person' in path 'boss.salary'" ∧
    (catalog.serve counted Plan.rawRows flawed).run 0 = (.error (.plan fault), 0) := by
  obtain ⟨-, hfault, -, hrefused⟩ := Catalog.plan_outcome catalog flawed
  obtain ⟨fault, hplan, hmessage⟩ : ∃ fault, catalog.plan flawed = .error fault ∧
      fault.message = "Unknown field 'salary' on entity 'person' in path 'boss.salary'" :=
    ⟨_, rfl, by decide⟩
  refine ⟨fault, hplan, rfl, (hfault fault).mp hplan, hmessage, ?_⟩
  rw [(hrefused fault hplan).unasked]
  rfl

end Staff

end DottedQuery
