/-
# DottedQuery.Proofs.Sql.Typing -- operands are of the types of their fields

A database compares whatever it is given. A text beside a column of numbers, or null beside anything, is
no fault there: the comparison holds of no row, and nobody is told. So planning has to refuse what does
not suit a field. `Operator.kinds` is the table of what suits, by operator and by type of field, and
`Suits` adds how the operand beside a statement comes from the one in the query.

Every operand beside the statement of a plan suits the field that it is compared with
(`suits_of_plan`). The one change that planning makes, to the text of a scalar on a field of texts,
never makes up an empty text: every scalar but null and bytes has a text, and only the empty text has
an empty one.
-/
import DottedQuery.Proofs.Decimal.Texts
import DottedQuery.Proofs.Sql.Placeholders
import DottedQuery.Proofs.Store.Ranks

namespace DottedQuery

/-! ## Kinds of scalars -/

/-- What a scalar is, without its content. -/
inductive Value.Kind where
  | null
  | bool
  | int
  | float
  | text
  | bytes
  deriving DecidableEq, Repr

def Value.kind : Value → Kind
  | null => .null
  | bool _ => .bool
  | int _ => .int
  | float _ => .float
  | text _ => .text
  | bytes _ => .bytes

/-- What a field may be compared with for equality. -/
def DataType.equalKinds : DataType → List Value.Kind
  | text => [.text]
  | integer => [.int]
  | float => [.int, .float]
  | boolean => [.bool]
  | timestamp => [.text, .int]
  | unknown => [.bool, .int, .float, .text]

/-- What a field may be compared with for order. An integer may be less than a number that is none, and
truth values are in no order. -/
def DataType.orderKinds : DataType → List Value.Kind
  | text => [.text]
  | integer => [.int, .float]
  | float => [.int, .float]
  | boolean => []
  | timestamp => [.text, .int]
  | unknown => [.int, .float, .text]

/-- What an operator may have beside a statement, on a field of a type. A test for null has nothing. -/
def Operator.kinds : Operator → DataType → List Value.Kind
  | exactly, dataType | not, dataType => dataType.equalKinds
  | lessThan, dataType | greaterThan, dataType => dataType.orderKinds
  | contains, dataType => if dataType = .text ∨ dataType = .unknown then [.text] else []
  | null, _ => []

/-- Whether a filter compares a field of texts for equality, where any scalar stands for its text. -/
def FilterSpec.Spells (filter : FilterSpec) (dataType : DataType) : Prop :=
  dataType = .text ∧ (filter.operator = .exactly ∨ filter.operator = .not)

/-- An operand beside a statement suits the field of its filter. -/
structure Suits (dataType : DataType) (filter : FilterSpec) (value : Value) : Prop where
  kind : value.kind ∈ filter.operator.kinds dataType
  present : value.kind ≠ .null ∧ value.kind ≠ .bytes
  ordered : filter.operator = .lessThan ∨ filter.operator = .greaterThan → value.kind ≠ .bool
  spelled : filter.Spells dataType → filter.operand.stringify.map Value.text = some value
  kept : ¬filter.Spells dataType → value = filter.operand
  nonempty : value = .text "" → filter.operand = .text ""

/-- A filter and the predicate it becomes: the column is the one of the field at the end of the path.
There is an operand unless the filter is a test for null, and it suits this field. -/
structure Typed (c : Catalog) (root : String) (filter : FilterSpec) (q : Predicate) : Prop where
  suits : ∃ r, c.resolve root filter.path = .ok r ∧ q.column.column = r.field.name ∧
    ∀ value, q.condition.operand? = some value → Suits r.field.dataType filter value
  operand?_eq : q.condition.operand? = none ↔ filter.operator = .null

variable {dataType : DataType} {filter : FilterSpec} {condition : Condition} {v a : Value}
  {c : Catalog} {spec : QuerySpec} {p : Plan}

/-! ## The texts of scalars -/

theorem intText_ne_empty (n : Int64) : Value.intText n ≠ "" := by
  rw [Value.intText, Int.toString_eq_repr, Int.repr_eq_if]
  split
  · exact Nat.repr_ne_empty
  · intro hempty
    have hchars := congrArg String.toList hempty
    rw [String.toList_append] at hchars
    exact List.append_ne_nil_of_left_ne_nil (by decide) _ hchars

/-- A scalar that is neither null nor bytes has a text, and only the empty text has an empty one. -/
theorem exists_stringify (hnull : v.kind ≠ .null) (hbytes : v.kind ≠ .bytes) :
    ∃ s, v.stringify = some s ∧ (s = "" → v = .text "") := by
  cases v with
  | null => exact absurd rfl hnull
  | bytes bs => exact absurd rfl hbytes
  | bool b =>
    refine ⟨_, rfl, fun hempty => ?_⟩
    cases b with
    | false => exact absurd hempty (by decide)
    | true => exact absurd hempty (by decide)
  | int n => exact ⟨_, rfl, fun hempty => absurd hempty (intText_ne_empty n)⟩
  | float x => exact ⟨_, rfl, fun hempty => absurd hempty (Decimal.typed_render_ne_empty x)⟩
  | text s => exact ⟨s, rfl, congrArg Value.text⟩

/-! ## Operands of comparisons and of parts -/

namespace Condition

/-- A comparison for equality has an operand of a kind that the field may be equal to. -/
theorem kind_mem_equalKinds (hbytes : v.kind ≠ .bytes) (h : equalityOperand dataType v = .ok a) :
    a.kind ∈ dataType.equalKinds := by
  cases v with
  | bytes bs => exact absurd rfl hbytes
  | null | bool b | int n | float x | text s =>
    cases dataType <;> cases h <;> simp [Value.kind, DataType.equalKinds]

/-- A comparison for order has an operand of a kind that the field is in order with. -/
theorem kind_mem_orderKinds (hbytes : v.kind ≠ .bytes) (h : orderedOperand dataType v = .ok a) :
    a.kind ∈ dataType.orderKinds := by
  cases v with
  | bytes bs => exact absurd rfl hbytes
  | null | bool b | int n | float x | text s =>
    cases dataType <;> cases h <;> simp [Value.kind, DataType.orderKinds]

/-- The operand of a comparison for equality is not null. On a field of texts it becomes its text, on
any other it stays what it is. -/
theorem eq_of_equalityOperand (h : equalityOperand dataType v = .ok a) : v.kind ≠ .null ∧
    a = if dataType = .text then .text (v.stringify.getD "") else v := by
  cases v with
  | null => cases dataType <;> cases h
  | bool b | int n | float x | text s | bytes bs =>
    cases dataType <;> cases h <;> simp [Value.kind]

/-- A part is looked for as it is given, and only in a field that has texts. -/
theorem text_of_partOperand {part : String} (h : partOperand dataType v = .ok part) :
    v = .text part ∧ (dataType = .text ∨ dataType = .unknown) := by
  cases v with
  | text s => cases dataType <;> cases h <;> simp
  | null | bool b | int n | float x | bytes bs => cases dataType <;> cases h

theorem exists_part (h : ofOperator .contains v dataType = .ok condition) :
    ∃ part, partOperand dataType v = .ok part ∧ contains part = condition := by
  cases v with
  | bytes bs => cases h
  | null | bool b | int n | float x | text s => exact map_eq_ok.mp h

/-- A test for null has no operand left. -/
theorem operand?_of_null (h : ofOperator .null v dataType = .ok condition) :
    condition.operand? = none := by
  cases v with
  | bool b => cases b <;> cases h <;> rfl
  | null | int n | float x | text s | bytes bs => cases h

/-- No operator takes bytes. -/
theorem kind_ne_bytes {operator : Operator} (h : ofOperator operator v dataType = .ok condition) :
    v.kind ≠ .bytes := by
  cases v with
  | bytes bs => cases operator <;> cases h
  | null | bool b | int n | float x | text s => simp [Value.kind]

end Condition

/-! ## The operand of a filter -/

/-- Null and bytes are in no table. -/
theorem present_of_mem_kinds {operator : Operator} {kind : Value.Kind}
    (h : kind ∈ operator.kinds dataType) : kind ≠ .null ∧ kind ≠ .bytes := by
  constructor
  · rintro rfl
    cases operator <;> cases dataType <;> revert h <;> decide
  · rintro rfl
    cases operator <;> cases dataType <;> revert h <;> decide

/-- Truth values are in no order. -/
theorem bool_not_mem_orderKinds : Value.Kind.bool ∉ dataType.orderKinds := by
  cases dataType <;> decide

/-- An operand that stays what it is suits the field if its kind does. -/
theorem suits_of_kept (hkind : filter.operand.kind ∈ filter.operator.kinds dataType)
    (hspells : ¬filter.Spells dataType) : Suits dataType filter filter.operand where
  kind := hkind
  present := present_of_mem_kinds hkind
  ordered := by
    rintro (ho | ho) hbool
    all_goals
      rw [ho, hbool] at hkind
      exact bool_not_mem_orderKinds hkind
  spelled := fun h => absurd h hspells
  kept := fun _ => rfl
  nonempty := id

/-- A scalar that is compared with a field of texts for equality is a text there, and if this text is
empty, so was the operand. -/
theorem suits_of_spelled (hspells : filter.Spells dataType) (hnull : filter.operand.kind ≠ .null)
    (hbytes : filter.operand.kind ≠ .bytes) :
    Suits dataType filter (.text (filter.operand.stringify.getD "")) := by
  obtain ⟨rfl, hoperator⟩ := hspells
  obtain ⟨s, hs, hempty⟩ := exists_stringify hnull hbytes
  have hkind : Value.Kind.text ∈ filter.operator.kinds .text := by
    rcases hoperator with ho | ho
    · rw [ho]
      decide
    · rw [ho]
      decide
  rw [hs, Option.getD_some]
  exact {
    kind := hkind
    present := present_of_mem_kinds hkind
    ordered := fun _ => nofun
    spelled := fun _ => by rw [hs, Option.map_some]
    kept := fun h => absurd ⟨rfl, hoperator⟩ h
    nonempty := fun h => hempty (Value.text.inj h) }

theorem suits_of_equal (hoperator : filter.operator = .exactly ∨ filter.operator = .not)
    (hbytes : filter.operand.kind ≠ .bytes)
    (h : Condition.equalityOperand dataType filter.operand = .ok a) : Suits dataType filter a := by
  obtain ⟨hnull, ha⟩ := Condition.eq_of_equalityOperand h
  by_cases htext : dataType = .text
  · rw [ha, if_pos htext]
    exact suits_of_spelled ⟨htext, hoperator⟩ hnull hbytes
  · rw [if_neg htext] at ha
    have hkind := Condition.kind_mem_equalKinds hbytes h
    rw [ha] at hkind ⊢
    refine suits_of_kept ?_ fun hspells => htext hspells.1
    rcases hoperator with ho | ho
    · rw [ho]
      exact hkind
    · rw [ho]
      exact hkind

theorem suits_of_order (hoperator : filter.operator = .lessThan ∨ filter.operator = .greaterThan)
    (hbytes : filter.operand.kind ≠ .bytes)
    (h : Condition.orderedOperand dataType filter.operand = .ok a) : Suits dataType filter a := by
  have hkind := Condition.kind_mem_orderKinds hbytes h
  obtain ⟨rfl, -⟩ := Condition.orderedOperand_cases h
  rcases hoperator with ho | ho
  all_goals
    refine suits_of_kept ?_ ?_
    · rw [ho]
      exact hkind
    · rw [FilterSpec.Spells, ho]
      simp

theorem suits_of_part {part : String} (hoperator : filter.operator = .contains)
    (h : Condition.partOperand dataType filter.operand = .ok part) :
    Suits dataType filter (.text part) := by
  obtain ⟨hpart, hdataType⟩ := Condition.text_of_partOperand h
  rw [← hpart]
  refine suits_of_kept ?_ ?_
  · rw [hoperator, hpart, Operator.kinds, if_pos hdataType]
    exact List.mem_singleton.mpr rfl
  · rw [FilterSpec.Spells, hoperator]
    simp

/-- What the condition of a filter compares a field with suits the field. Only a test for null has
nothing to compare it with. -/
theorem suits_of_condition (h : filter.condition dataType = .ok condition) :
    (∀ value, condition.operand? = some value → Suits dataType filter value) ∧
      (condition.operand? = none ↔ filter.operator = .null) := by
  have h := mapError_succeeds.mp h
  have hbytes := Condition.kind_ne_bytes h
  cases hoperator : filter.operator with
  | exactly | not =>
    rw [hoperator] at h
    obtain ⟨a, ha, rfl⟩ := Condition.exists_operand rfl h
    refine ⟨fun value hvalue => ?_, iff_of_false nofun nofun⟩
    cases hvalue
    exact suits_of_equal (by simp [hoperator]) hbytes ha
  | lessThan | greaterThan =>
    rw [hoperator] at h
    obtain ⟨a, ha, rfl⟩ := Condition.exists_operand rfl h
    refine ⟨fun value hvalue => ?_, iff_of_false nofun nofun⟩
    cases hvalue
    exact suits_of_order (by simp [hoperator]) hbytes ha
  | contains =>
    rw [hoperator] at h
    obtain ⟨part, hpart, rfl⟩ := Condition.exists_part h
    refine ⟨fun value hvalue => ?_, iff_of_false nofun nofun⟩
    cases hvalue
    exact suits_of_part hoperator hpart
  | null =>
    rw [hoperator] at h
    have hnone := Condition.operand?_of_null h
    refine ⟨fun value hvalue => ?_, iff_of_true hnone rfl⟩
    rw [hnone] at hvalue
    cases hvalue

/-! ## The operands of a statement -/

/-- Beside the statement of a plan stand the operands of its predicates, in their order, and each suits
the field that its predicate is about. -/
theorem suits_of_plan (h : c.plan spec = .ok p) :
    List.Forall₂ (Typed c spec.table) spec.filters p.predicates ∧
      ∀ (d : Sql.Dialect) (kind : Sql.JoinKind),
        ((p.select kind).statement d).operands = p.predicates.filterMap (·.condition.operand?) := by
  obtain ⟨start, h⟩ := Catalog.plan_spec h
  refine ⟨h.predicates.imp ?_, fun d kind => ?_⟩
  · rintro filter q ⟨r, n, hr, hreads, -, hcondition⟩
    obtain ⟨hsuits, hnone⟩ := suits_of_condition hcondition
    exact ⟨⟨r, hr, hreads.column_eq, hsuits⟩, hnone⟩
  · rw [Sql.operands_statement]
    exact Sql.operandsOf_conditionsOf p.predicates

namespace Rooms

/-- Rooms with a label, a size, and whether they are free. -/
def room : Entity :=
  (Entity.ofName "room").addField "label" .text |>.addField "size" .float
    |>.addField "free" .boolean

/-- The field of a room. -/
def roomField (name : String) (h : ∀ s ∈ [name], isIdentifier s = true) : FieldPath := ⟨[], name, h⟩

/-- Free rooms with more than 20 square metres that are neither called 7 nor have an empty label. -/
def freeRooms : QuerySpec where
  table := "room"
  fields := [⟨roomField "label" (by decide), none⟩]
  filters := [⟨roomField "label" (by decide), .not, .int 7⟩,
    ⟨roomField "free" (by decide), .null, .bool false⟩,
    ⟨roomField "size" (by decide), .greaterThan, .int 20⟩,
    ⟨roomField "free" (by decide), .exactly, .bool true⟩,
    ⟨roomField "label" (by decide), .not, .text ""⟩]

/-- The number on the field of texts becomes a text, the one on the field of numbers does not. -/
theorem suits_of_plan_freeRooms : ∃ p, (⟨[room]⟩ : Catalog).plan freeRooms = .ok p ∧
    ((p.select .inner).statement .sqlite).operands =
      [.text "7", .int 20, .bool true, .text ""] ∧
    List.Forall₂ (Typed ⟨[room]⟩ "room") freeRooms.filters p.predicates := by
  obtain ⟨p, hp, hoperands⟩ : ∃ p, (⟨[room]⟩ : Catalog).plan freeRooms = .ok p ∧
      p.predicates.filterMap (·.condition.operand?) =
        [.text "7", .int 20, .bool true, .text ""] := ⟨_, rfl, rfl⟩
  obtain ⟨htyped, hstatement⟩ := suits_of_plan hp
  exact ⟨p, hp, (hstatement .sqlite .inner).trans hoperands, htyped⟩

end Rooms

end DottedQuery
