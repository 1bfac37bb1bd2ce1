/-
# DottedQuery.Proofs.Plan.Steps -- planning without the tree

Planning goes through the fields and the filters of a query with a tree that grows from one to the
next. The tree takes no part in what succeeds: an entry is resolved by itself, and placing what it
resolves to cannot fail (`planField_eq`, `planFilter_eq`). So planning is the same as resolving all
entries first and then placing all of them (`plan_eq`), and the lemmas about plans speak of one or of
the other.
-/
import DottedQuery.Plan.Basic
import DottedQuery.Proofs.Success

namespace DottedQuery.Catalog

variable {ε α β γ δ : Type}

/-! ## Resolving and placing apart -/

/-- Places resolved paths one after the other. -/
def placeAll (c : Catalog) (t : JoinTree) : List Resolution → JoinTree × List ColumnRef
  | [] => (t, [])
  | r :: rest =>
    let (t, column) := c.place t r
    let (t, columns) := c.placeAll t rest
    (t, column :: columns)

/-- A requested field whose path was followed. -/
def resolveField (c : Catalog) (root : String) (field : FieldSpec) :
    Except PlanError (FieldSpec × Resolution) := do
  return (field, ← c.resolve root field.path)

/-- A filter whose path was followed, with the condition it puts on the field. -/
def resolveFilter (c : Catalog) (root : String) (filter : FilterSpec) :
    Except PlanError (Condition × Resolution) := do
  let resolution ← c.resolve root filter.path
  return (← filter.condition resolution.field.dataType, resolution)

/-- A requested field with its column. -/
def selection (entry : FieldSpec × Resolution) (column : ColumnRef) : Selection :=
  ⟨entry.2.path, column, entry.2.field.dataType, entry.1.label⟩

/-- A filter with its column. -/
def predicate (entry : Condition × Resolution) (column : ColumnRef) : Predicate :=
  ⟨entry.2.path, column, entry.1⟩

/-- The tree and the result that placing a resolved entry gives. -/
def placeEntry (c : Catalog) (make : β × Resolution → ColumnRef → γ) (t : JoinTree)
    (entry : β × Resolution) : JoinTree × γ :=
  ((c.place t entry.2).1, make entry (c.place t entry.2).2)

/-- The tree and the results that placing resolved entries one after the other gives. -/
def placeEntries (c : Catalog) (make : β × Resolution → ColumnRef → γ) (t : JoinTree)
    (entries : List (β × Resolution)) : JoinTree × List γ :=
  ((c.placeAll t (entries.map (·.2))).1,
    entries.zipWith make (c.placeAll t (entries.map (·.2))).2)

variable {c : Catalog} {root : String} {spec : QuerySpec}

/-! ## One entry -/

/-- A field is resolved and then placed. -/
theorem planField_eq (t : JoinTree) (field : FieldSpec) :
    c.planField root t field = (c.resolveField root field).map (c.placeEntry selection t) := by
  unfold planField resolveField
  cases c.resolve root field.path with
  | error e => rfl
  | ok r => rfl

/-- A filter is resolved, with its operand, and then placed. -/
theorem planFilter_eq (t : JoinTree) (filter : FilterSpec) :
    c.planFilter root t filter = (c.resolveFilter root filter).map (c.placeEntry predicate t) := by
  unfold planFilter resolveFilter
  cases c.resolve root filter.path with
  | error e => rfl
  | ok r =>
    show (filter.condition r.field.dataType >>= fun condition => _) =
      Except.map _ (filter.condition r.field.dataType >>= fun condition => _)
    cases filter.condition r.field.dataType with
    | error e => rfl
    | ok condition => rfl

/-! ## All entries -/

/-- If every entry is resolved and then placed, all of them are resolved and then all are placed,
whatever the tree is. -/
theorem planEach_eq {step : JoinTree → α → Except PlanError (JoinTree × γ)}
    {resolve : α → Except PlanError (β × Resolution)} {make : β × Resolution → ColumnRef → γ}
    (hstep : ∀ t x, step t x = (resolve x).map (c.placeEntry make t)) (t : JoinTree) (xs : List α) :
    planEach step t xs = (xs.mapM resolve).map (c.placeEntries make t) := by
  induction xs generalizing t with
  | nil => rfl
  | cons x xs ih =>
    rw [planEach, hstep, List.mapM_cons]
    cases resolve x with
    | error e => rfl
    | ok entry =>
      -- the next entries find the tree with this one placed
      show (planEach step (c.place t entry.2).1 xs >>= fun rest => _) =
        Except.map _ (xs.mapM resolve >>= fun entries => _)
      rw [ih]
      cases xs.mapM resolve with
      | error e => rfl
      | ok entries => rfl

/-- Planning a query is resolving all of it and then placing all of it. -/
theorem plan_eq (c : Catalog) (spec : QuerySpec) :
    c.plan spec = if spec.fields.isEmpty then .error .noFields
      else do
        let start ← c.requireEntity spec.table
        let fields ← spec.fields.mapM (c.resolveField spec.table)
        let filters ← spec.filters.mapM (c.resolveFilter spec.table)
        let first := c.placeEntries selection (JoinTree.ofRoot start.name start.tableName) fields
        let second := c.placeEntries predicate first.1 filters
        return ⟨second.1, first.2, second.2⟩ := by
  unfold plan
  split
  · rfl
  cases c.requireEntity spec.table with
  | error e => rfl
  | ok start =>
    show (planEach _ _ spec.fields >>= fun first => _) =
      (spec.fields.mapM (c.resolveField spec.table) >>= fun fields => _)
    rw [planEach_eq planField_eq]
    cases spec.fields.mapM (c.resolveField spec.table) with
    | error e => rfl
    | ok fields =>
      show (planEach _ _ spec.filters >>= fun second => _) =
        (spec.filters.mapM (c.resolveFilter spec.table) >>= fun filters => _)
      rw [planEach_eq planFilter_eq]
      cases spec.filters.mapM (c.resolveFilter spec.table) with
      | error e => rfl
      | ok filters => rfl

end DottedQuery.Catalog
