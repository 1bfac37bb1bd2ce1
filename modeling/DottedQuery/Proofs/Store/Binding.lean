/-
# DottedQuery.Proofs.Store.Binding -- operands that are stored as null

Nothing compares with null, so planning refuses null as the operand of every operator. Whether an operand
is null is settled a second time where a database stores it, and a database has no place for a double that
is no number: it stores null. Such a double is a number to planning. On a field of numbers, or of a type
that is not known, it is taken as it is (`FilterSpec.Vanishes`), and then no row is ever given
(`stored_of_plan`). Everything else that stands beside a statement is stored as something.
-/
import DottedQuery.Proofs.Sql.Typing
import DottedQuery.Proofs.Store.Partition
import DottedQuery.Spec.Reading

namespace DottedQuery

open Store (Cell Manner)

/-! ## Values that are stored as null -/

/-- A double that is no number. -/
def Value.NotANumber (v : Value) : Prop := ∃ x, v = .float x ∧ x.isNaN = true

/-- A database has null for null, and for what is not a number. -/
theorem Store.Cell.ofValue_eq_null_iff {v : Value} :
    Cell.ofValue v = .null ↔ v.kind = .null ∨ v.NotANumber := by
  cases v with
  | null => exact iff_of_true rfl (Or.inl rfl)
  | float x =>
    rw [Cell.ofValue]
    split
    · rename_i hx
      exact iff_of_true rfl (Or.inr ⟨x, rfl, hx⟩)
    · rename_i hx
      constructor
      · intro h
        cases h
      · rintro (hnull | ⟨y, hy, hnan⟩)
        · cases hnull
        · cases hy
          exact absurd hnan hx
  | bool b | int n | text s | bytes bs =>
    constructor
    · intro h
      cases h
    · rintro (hnull | ⟨y, hy, -⟩)
      · cases hnull
      · cases hy

variable {c : Catalog} {spec : QuerySpec} {p : Plan} {filter : FilterSpec} {dataType : DataType}
  {condition : Condition} {value : Value} {m : Manner} {cell : Cell} {rows : List (List Value)}
  {kind : Sql.JoinKind} {db : Store.Database}

/-- A condition with an operand that is stored as null is true of no cell. -/
theorem Condition.holds_eq_false_of_null (hoperand : condition.operand? = some value)
    (hnull : Cell.ofValue value = .null) : condition.holds m cell = false := by
  cases condition with
  | compare comparison operand =>
    cases hoperand
    rw [Condition.holds, Condition.truth, hnull, Cell.rank_null]
    cases cell.rank m <;> rfl
  | contains part =>
    cases hoperand
    cases hnull
  | isNull | isNotNull => cases hoperand

theorem Condition.exists_ofOperator_float {operator : Operator} (x : Float)
    (h : .float ∈ operator.kinds dataType) :
    ∃ condition, Condition.ofOperator operator (.float x) dataType = .ok condition := by
  cases operator with
  | exactly | not =>
    cases dataType with
    | float | unknown => exact ⟨_, rfl⟩
    | text | integer | boolean | timestamp => exact absurd h (by decide)
  | lessThan | greaterThan =>
    cases dataType with
    | integer | float | unknown => exact ⟨_, rfl⟩
    | text | boolean | timestamp => exact absurd h (by decide)
  | contains | null => cases dataType <;> exact absurd h (by decide)

/-! ## Filters -/

namespace FilterSpec

/-- The operand is no number, but a double on a field with which the operator compares doubles. -/
def Vanishes (filter : FilterSpec) (dataType : DataType) : Prop :=
  filter.operand.NotANumber ∧ .float ∈ filter.operator.kinds dataType

/-- No operator takes null. -/
theorem refused_of_null (h : filter.operand = .null) (dataType : DataType) : ∃ expected,
    filter.condition dataType =
      .error (.operandMismatch filter.path filter.operator expected .null) := by
  obtain ⟨path, operator, operand⟩ := filter
  cases h
  cases operator <;> cases dataType <;> exact ⟨_, rfl⟩

/-- A double is taken where the operator compares doubles, whether it is a number or not. -/
theorem exists_condition_of_vanishes (h : filter.Vanishes dataType) :
    ∃ condition, filter.condition dataType = .ok condition := by
  obtain ⟨⟨x, hx, -⟩, hkind⟩ := h
  obtain ⟨condition, hcondition⟩ := Condition.exists_ofOperator_float x hkind
  refine ⟨condition, mapError_succeeds.mpr ?_⟩
  rw [hx]
  exact hcondition

/-- The operand of a condition is stored as null exactly if the filter has an operand that vanishes. -/
theorem stored_null_iff (h : filter.condition dataType = .ok condition)
    (hoperand : condition.operand? = some value) :
    Cell.ofValue value = .null ↔ filter.Vanishes dataType := by
  have hsuits := (suits_of_condition h).1 value hoperand
  rw [Cell.ofValue_eq_null_iff]
  constructor
  · rintro (hnull | hnan)
    · exact absurd hnull hsuits.present.1
    obtain ⟨x, rfl, hx⟩ := hnan
    -- on a field of texts it would be a text
    have hspells : ¬filter.Spells dataType := by
      intro hspells
      obtain ⟨s, -, hs⟩ := Option.map_eq_some_iff.mp (hsuits.spelled hspells)
      cases hs
    exact ⟨⟨x, (hsuits.kept hspells).symm, hx⟩, hsuits.kind⟩
  · rintro ⟨hnan, hkind⟩
    have hspells : ¬filter.Spells dataType := by
      rintro ⟨rfl, hoperator⟩
      rcases hoperator with ho | ho
      all_goals
        rw [ho] at hkind
        exact absurd hkind (by decide)
    rw [hsuits.kept hspells]
    exact Or.inr hnan

end FilterSpec

/-! ## Plans -/

/-- The operand of a filter is stored as null exactly if it vanishes on the field at the end of the path. -/
def StoredAs (c : Catalog) (root : String) (filter : FilterSpec) (q : Predicate) : Prop :=
  ∃ r, c.resolve root filter.path = .ok r ∧ ∀ value, q.condition.operand? = some value →
    (Cell.ofValue value = .null ↔ filter.Vanishes r.field.dataType)

/-- Some operand of a query vanishes. -/
def QuerySpec.HasVanishing (c : Catalog) (spec : QuerySpec) : Prop :=
  ∃ filter ∈ spec.filters, ∃ r, c.resolve spec.table filter.path = .ok r ∧
    filter.Vanishes r.field.dataType

/-- A vanishing operand is compared: only a test for null has no operand. -/
theorem exists_operand_of_vanishes (h : filter.condition dataType = .ok condition)
    (hvanishes : filter.Vanishes dataType) : ∃ value, condition.operand? = some value := by
  rw [← Option.ne_none_iff_exists']
  intro hnone
  have hkind := hvanishes.2
  rw [(suits_of_condition h).2.mp hnone] at hkind
  exact absurd hkind List.not_mem_nil

/-- Where an operand vanishes no row is given. -/
theorem rows_eq_nil_of_vanishing (hp : c.plan spec = .ok p) (h : spec.HasVanishing c)
    (hrows : db.execute kind p = .ok rows) : rows = [] := by
  obtain ⟨filter, hfilter, r, hr, hvanishes⟩ := h
  obtain ⟨start, choices, hb, -, hchoices, rfl⟩ := exists_choicesOf hp hrows
  obtain ⟨q, -, r', n, hr', -, -, hcondition⟩ := exists_partner hb.planned.predicates.flip hfilter
  cases hr.symm.trans hr'
  obtain ⟨value, hvalue⟩ := exists_operand_of_vanishes hcondition hvanishes
  have hnull := (FilterSpec.stored_null_iff hcondition hvalue).mpr hvanishes
  -- a choice would have a cell at the end of the path of which the condition is true
  rw [List.map_eq_nil_iff, List.eq_nil_iff_forall_not_mem]
  intro σ hσ
  have hholds := ((hchoices.mem_iff σ).mp hσ).2 filter hfilter
  rw [RecordGraph.holds_iff hr hcondition, RecordGraph.meets,
    Condition.holds_eq_false_of_null hvalue hnull] at hholds
  cases hholds

/-- What stands beside the statement of a plan is stored as something unless an operand vanishes, and then
no row is given. Null is refused, whatever the operator and the field, and what vanishes never is. -/
theorem stored_of_plan (c : Catalog) (spec : QuerySpec) :
    (∀ p, c.plan spec = .ok p →
      List.Forall₂ (StoredAs c spec.table) spec.filters p.predicates ∧
      (∀ kind, (∀ value ∈ ((p.select kind).statement .sqlite).operands, Cell.ofValue value ≠ .null) ↔
        ¬spec.HasVanishing c) ∧
      (spec.HasVanishing c → ∀ (db : Store.Database) (kind : Sql.JoinKind) (rows : List (List Value)),
        db.execute kind p = .ok rows → rows = [])) ∧
    ∀ (filter : FilterSpec) (dataType : DataType),
      (filter.operand = .null → ∃ expected, filter.condition dataType =
        .error (.operandMismatch filter.path filter.operator expected .null)) ∧
      (filter.Vanishes dataType → ∃ condition, filter.condition dataType = .ok condition) := by
  refine ⟨fun p hp => ?_, fun filter dataType =>
    ⟨fun h => FilterSpec.refused_of_null h dataType, FilterSpec.exists_condition_of_vanishes⟩⟩
  obtain ⟨start, h⟩ := Catalog.plan_spec hp
  have hstored : List.Forall₂ (StoredAs c spec.table) spec.filters p.predicates := by
    refine h.predicates.imp ?_
    rintro filter q ⟨r, n, hr, -, -, hcondition⟩
    exact ⟨r, hr, fun value => FilterSpec.stored_null_iff hcondition⟩
  refine ⟨hstored, fun kind => ?_, fun hvanishing db kind rows => rows_eq_nil_of_vanishing hp hvanishing⟩
  rw [(suits_of_plan hp).2]
  constructor
  · rintro hall ⟨filter, hfilter, r, hr, hvanishes⟩
    obtain ⟨q, hq, r', n, hr', -, -, hcondition⟩ := exists_partner h.predicates.flip hfilter
    cases hr.symm.trans hr'
    obtain ⟨value, hvalue⟩ := exists_operand_of_vanishes hcondition hvanishes
    exact hall value (List.mem_filterMap.mpr ⟨q, hq, hvalue⟩)
      ((FilterSpec.stored_null_iff hcondition hvalue).mpr hvanishes)
  · intro hnone value hvalue hnull
    obtain ⟨q, hq, hvalue⟩ := List.mem_filterMap.mp hvalue
    obtain ⟨filter, hfilter, r, hr, hiff⟩ := exists_partner hstored hq
    exact hnone ⟨filter, hfilter, r, hr, (hiff value hvalue).mp hnull⟩

namespace Ratings

/-- Two songs with their ratings. -/
def songs : Store.Table where
  name := "songs"
  columns := [⟨"rating", "REAL", .real, .binary, false, false⟩]
  records := [⟨1, [.real 4.5]⟩, ⟨2, [.real 2.0]⟩]

def database : Store.Database where
  tables := [songs]

def catalog : Catalog := ⟨[(Entity.ofName "songs").addField "rating" .float]⟩

def rating : FieldPath := ⟨[], "rating", by decide⟩

/-- Songs that are not rated like this. -/
def unlike (x : Float) : QuerySpec where
  table := "songs"
  fields := [⟨rating, none⟩]
  filters := [⟨rating, .not, .float x⟩]

def infinity : Float := Float.ofBits 0x7FF0000000000000

def notANumber : Float := Float.ofBits 0x7FF8000000000000

/-- Infinity is compared as something. What is not a number is taken as well, and no song is found that is
rated unlike it, in any database. -/
theorem stored_of_plan_ratings : ∃ p p', catalog.plan (unlike infinity) = .ok p ∧
    (∀ value ∈ ((p.select .inner).statement .sqlite).operands, Cell.ofValue value ≠ .null) ∧
    catalog.plan (unlike notANumber) = .ok p' ∧ (unlike notANumber).HasVanishing catalog ∧
    ∀ (db : Store.Database) (kind : Sql.JoinKind) (rows : List (List Value)),
      db.execute kind p' = .ok rows → rows = [] := by
  obtain ⟨p, hp⟩ : ∃ p, catalog.plan (unlike infinity) = .ok p := ⟨_, rfl⟩
  obtain ⟨p', hp'⟩ : ∃ p', catalog.plan (unlike notANumber) = .ok p' := ⟨_, rfl⟩
  have hnone : ¬(unlike infinity).HasVanishing catalog := by
    rintro ⟨filter, hfilter, r, -, ⟨x, hx, hnan⟩, -⟩
    rw [List.mem_singleton.mp hfilter] at hx
    cases hx
    exact Bool.false_ne_true (Decimal.isNaN_infinity.symm.trans hnan)
  have hvanishing : (unlike notANumber).HasVanishing catalog :=
    ⟨_, List.mem_singleton_self _, _, rfl, ⟨notANumber, rfl, by decide +kernel⟩, by decide⟩
  obtain ⟨-, hstored, -⟩ := (stored_of_plan catalog (unlike infinity)).1 p hp
  obtain ⟨-, -, hrows⟩ := (stored_of_plan catalog (unlike notANumber)).1 p' hp'
  exact ⟨p, p', hp, (hstored .inner).mpr hnone, hp', hvanishing, hrows hvanishing⟩

/-- The same query in YAML. -/
def text (rating : String) : String :=
  "table: songs\nfields:\n  rating:\nfilter:\n- rating:\n    not: " ++ rating ++ "\n"

/-- Whether the cells that a query compares with are null, and how many rows it gives. -/
def compared (text : String) : Option (List Bool × Nat) := do
  let spec ← (QuerySpec.ofYaml text).toOption
  let p ← (catalog.plan spec).toOption
  let rows ← (database.execute .inner p).toOption
  let cells := ((p.select .inner).statement .sqlite).operands.map Cell.ofValue
  return (cells.map (· matches .null), rows.length)

/-- What YAML writes for not a number is compared with as null, and not refused. -/
theorem compared_with_null : compared (text ".nan") = some ([true], 0) ∧
    compared (text "4.5") = some ([false], 1) := by
  refine ⟨?_, ?_⟩
  · decide +kernel
  · decide +kernel

end Ratings

end DottedQuery
