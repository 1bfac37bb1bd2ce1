/-
# DottedQuery.Proofs.Plan.Operands -- what in a plan depends on operands

Planning looks at an operand once, when its filter is made a condition: the operand has to suit the
operator and the type of the field, and it becomes the operand of the condition, perhaps as text. What
the condition does (`Condition.kind`) is settled by the operator alone, but for the operator of null
tests, whose operand says which test is meant.

So two queries that are the same but for operands and labels, and that both have a plan, have plans
that are the same but for operands and labels (`equalUpToOperands_of_plan`). Their tables are joined in
the same way, since the tree grows along the paths and knows nothing of operands.
-/
import DottedQuery.Proofs.Plan.Placement

namespace DottedQuery

/-! ## Conditions without their operands -/

/-- What a condition does to its column, without the operand. -/
inductive ConditionKind where
  | compare (comparison : Comparison)
  | contains
  | isNull
  | isNotNull
  deriving DecidableEq, Repr

def Condition.kind : Condition → ConditionKind
  | compare comparison _ => .compare comparison
  | contains _ => .contains
  | isNull => .isNull
  | isNotNull => .isNotNull

/-- What an operator asks for. The operand of a null test says which of the two tests it is. -/
def Operator.kind : Operator → Value → ConditionKind
  | exactly, _ => .compare .equal
  | not, _ => .compare .different
  | lessThan, _ => .compare .less
  | greaterThan, _ => .compare .greater
  | contains, _ => .contains
  | null, operand =>
    match operand with
    | .bool true => .isNull
    | _ => .isNotNull

variable {c : Catalog} {spec spec' : QuerySpec} {p p' : Plan} {root : String} {dataType : DataType}
  {condition : Condition}

/-- What is made of an operand has nothing to do with what the condition does. -/
theorem kind_of_map_eq_ok {α : Type} {step : Except Expectation α} {make : α → Condition}
    {kind : ConditionKind} (hmake : ∀ a, (make a).kind = kind) (h : step.map make = .ok condition) :
    condition.kind = kind := by
  cases step with
  | error expected => cases h
  | ok a =>
    cases h
    exact hmake a

/-- The operator decides what the condition does. -/
theorem kind_of_ofOperator {operator : Operator} {operand : Value}
    (h : Condition.ofOperator operator operand dataType = .ok condition) :
    condition.kind = operator.kind operand := by
  cases operator with
  | null =>
    cases operand with
    | bool b =>
      cases h
      cases b <;> rfl
    | null | int n | float x | text s | bytes bs => cases h
  | exactly | not =>
    cases operand with
    | null | bytes bs => cases h
    | bool b | int n | float x | text s => exact kind_of_map_eq_ok (fun _ => rfl) h
  | lessThan | greaterThan | contains =>
    cases operand with
    | bytes bs => cases h
    | null | bool b | int n | float x | text s => exact kind_of_map_eq_ok (fun _ => rfl) h

theorem kind_of_condition {filter : FilterSpec} (h : filter.condition dataType = .ok condition) :
    condition.kind = filter.operator.kind filter.operand :=
  kind_of_ofOperator (mapError_succeeds.mp h)

/-! ## Equal up to operands and labels -/

/-- Filters on the same path with the same operator. Null tests have the same operand too. -/
structure FilterSpec.EqualUpToOperand (filter filter' : FilterSpec) : Prop where
  path_eq : filter.path = filter'.path
  operator_eq : filter.operator = filter'.operator
  operand_eq : filter.operator = .null → filter.operand = filter'.operand

/-- Queries for the same table with the same paths and operators in the same order. -/
structure QuerySpec.EqualUpToOperands (spec spec' : QuerySpec) : Prop where
  table_eq : spec.table = spec'.table
  fields : List.Forall₂ (fun field field' => field.path = field'.path) spec.fields spec'.fields
  filters : List.Forall₂ FilterSpec.EqualUpToOperand spec.filters spec'.filters

/-- Plans that differ in the labels of selections and the operands of conditions, if in anything. -/
structure Plan.EqualUpToOperands (p p' : Plan) : Prop where
  joins_eq : p.joins = p'.joins
  selections : List.Forall₂ (fun s s' => s.path = s'.path ∧ s.column = s'.column ∧
    s.dataType = s'.dataType) p.selections p'.selections
  predicates : List.Forall₂ (fun q q' => q.path = q'.path ∧ q.column = q'.column ∧
    q.condition.kind = q'.condition.kind) p.predicates p'.predicates

theorem FilterSpec.EqualUpToOperand.kind_eq {filter filter' : FilterSpec}
    (h : filter.EqualUpToOperand filter') :
    filter.operator.kind filter.operand = filter'.operator.kind filter'.operand := by
  rw [← h.operator_eq]
  cases hoperator : filter.operator with
  | null => rw [h.operand_eq hoperator]
  | exactly | not | lessThan | greaterThan | contains => rfl

/-! ## Planning queries that are equal up to operands -/

theorem resolution_eq_of_fields {field field' : FieldSpec} {entry entry' : FieldSpec × Resolution}
    (hpath : field.path = field'.path) (h : c.resolveField root field = .ok entry)
    (h' : c.resolveField root field' = .ok entry') : entry.2 = entry'.2 := by
  obtain ⟨-, hr⟩ := Catalog.resolveField_eq_ok_iff.mp h
  obtain ⟨-, hr'⟩ := Catalog.resolveField_eq_ok_iff.mp h'
  rw [hpath, hr'] at hr
  exact (Except.ok.inj hr).symm

theorem resolution_eq_of_filters {filter filter' : FilterSpec} {entry entry' : Condition × Resolution}
    (hfilter : filter.EqualUpToOperand filter') (h : c.resolveFilter root filter = .ok entry)
    (h' : c.resolveFilter root filter' = .ok entry') :
    entry.2 = entry'.2 ∧ entry.1.kind = entry'.1.kind := by
  obtain ⟨hr, hcondition⟩ := Catalog.resolveFilter_eq_ok_iff.mp h
  obtain ⟨hr', hcondition'⟩ := Catalog.resolveFilter_eq_ok_iff.mp h'
  rw [hfilter.path_eq, hr'] at hr
  refine ⟨(Except.ok.inj hr).symm, ?_⟩
  rw [kind_of_condition hcondition, kind_of_condition hcondition', hfilter.kind_eq]

/-- Entries that agree on their resolutions, put together with the same columns, differ only in what
they have beside their resolutions. -/
theorem forall₂_zipWith_columns {α β γ δ : Type} {R : α → β → Prop} {S : γ → δ → Prop}
    {make : α → ColumnRef → γ} {make' : β → ColumnRef → δ}
    (hS : ∀ entry entry' column, R entry entry' → S (make entry column) (make' entry' column))
    {entries : List α} {entries' : List β} (h : List.Forall₂ R entries entries')
    (columns : List ColumnRef) :
    List.Forall₂ S (entries.zipWith make columns) (entries'.zipWith make' columns) := by
  induction h generalizing columns with
  | nil => exact .nil
  | cons hentry _ ih =>
    cases columns with
    | nil => exact .nil
    | cons column columns => exact .cons (hS _ _ column hentry) (ih columns)

/-- Queries that are equal up to operands and labels have plans that are so too: their paths resolve
to the same relationships and fields, which are placed in the same order. -/
theorem equalUpToOperands_of_plan (hspec : spec.EqualUpToOperands spec') (h : c.plan spec = .ok p)
    (h' : c.plan spec' = .ok p') : p.EqualUpToOperands p' := by
  obtain ⟨start, fields, filters, -, hstart, hfields, hfilters, rfl⟩ := Catalog.steps_of_plan h
  obtain ⟨start', fields', filters', -, hstart', hfields', hfilters', rfl⟩ :=
    Catalog.steps_of_plan h'
  rw [hspec.table_eq] at hstart hfields hfilters
  obtain rfl : start = start' := Option.some.inj (hstart.symm.trans hstart')
  have hfieldEntries : List.Forall₂ (fun entry entry' => entry.2 = entry'.2) fields fields' := by
    refine forall₂_square ?_ hspec.fields hfields hfields'
    intro field field' entry entry' hpath h h'
    exact resolution_eq_of_fields hpath h h'
  have hfilterEntries : List.Forall₂ (fun entry entry' =>
      entry.2 = entry'.2 ∧ entry.1.kind = entry'.1.kind) filters filters' := by
    refine forall₂_square ?_ hspec.filters hfilters hfilters'
    intro filter filter' entry entry' hfilter h h'
    exact resolution_eq_of_filters hfilter h h'
  -- the trees grow along the resolutions, which are the same
  have hplaced : fields.map (·.2) = fields'.map (·.2) :=
    map_eq_of_forall₂ (fun _ _ h => h) hfieldEntries
  have hplaced' : filters.map (·.2) = filters'.map (·.2) :=
    map_eq_of_forall₂ (fun _ _ h => h.1) hfilterEntries
  rw [← hplaced, ← hplaced']
  refine ⟨rfl, ?_, ?_⟩
  · refine forall₂_zipWith_columns (fun entry entry' column heq => ?_) hfieldEntries _
    simp only [Catalog.selection, heq, and_self]
  · refine forall₂_zipWith_columns (fun entry entry' column heq => ?_) hfilterEntries _
    simp only [Catalog.predicate, heq, and_self]

end DottedQuery
