/-
# DottedQuery.Proofs.Result.Answers -- what the results of a query are made of

Both results of a query, the one under the names of columns and the one under dotted paths, are made of
the same rows. `Engine.answer` is what they share: the plan and the rows that answer it, unless there is
no plan, no answer, or a row of the wrong width among the rows. `runRaw_eq` and `run_eq` say that each
result is this answer with the rows put under its own keys, and that nothing else can go wrong.
-/
import DottedQuery.Engine
import DottedQuery.Proofs.Success

namespace DottedQuery

variable {ε : Type}

/-! ## Rows under keys -/

namespace Plan

variable {p : Plan} {rows : List NativeRow}

/-- Whether a row does not have one value for each selection. -/
def misfits (p : Plan) (row : NativeRow) : Bool := row.length ≠ p.selections.length

/-- The values of a row under keys, whatever its width. -/
def record (p : Plan) (key : Selection → String) (row : NativeRow) : Dict Value :=
  .ofList ((p.selections.map key).zip row)

theorem not_misfits_iff {row : NativeRow} :
    ¬p.misfits row = true ↔ row.length = p.selections.length := by
  rw [misfits, decide_eq_true_eq, not_not]

/-- Putting rows under keys stops at the first row of the wrong width and at nothing else. -/
theorem mapM_keyed (p : Plan) (key : Selection → String) (rows : List NativeRow) :
    rows.mapM (p.keyed key) =
      match rows.find? p.misfits with
      | some row => .error ⟨p.selections.length, row.length⟩
      | none => .ok (rows.map (p.record key)) := by
  induction rows with
  | nil => rfl
  | cons row rows ih =>
    rw [List.mapM_cons, ih, keyed]
    -- a row of the wrong width is the first one, or else the search goes on as the run does
    by_cases hrow : p.misfits row = true
    · have hwidth : ¬row.length = p.selections.length := fun h => not_misfits_iff.mpr h hrow
      rw [if_neg hwidth, List.find?_cons_of_pos hrow]
      rfl
    · rw [if_pos (not_misfits_iff.mp hrow), List.find?_cons_of_neg hrow]
      cases rows.find? p.misfits <;> rfl

/-- No row is of the wrong width if each has one value for every selection. -/
theorem find?_misfits_eq_none_iff :
    rows.find? p.misfits = none ↔ ∀ row ∈ rows, row.length = p.selections.length := by
  simp only [List.find?_eq_none, not_misfits_iff]

/-- A row of the wrong width is found if it is the first one. -/
theorem find?_misfits_eq_some_iff {row : NativeRow} : rows.find? p.misfits = some row ↔
    ∃ before after, rows = before ++ row :: after ∧
      (∀ earlier ∈ before, earlier.length = p.selections.length) ∧
      row.length ≠ p.selections.length := by
  rw [List.find?_eq_some_iff_append]
  constructor
  · rintro ⟨hrow, before, after, rfl, hbefore⟩
    refine ⟨before, after, rfl, fun earlier hmem => ?_, of_decide_eq_true hrow⟩
    have hfits := hbefore earlier hmem
    exact not_misfits_iff.mp (by simpa using hfits)
  · rintro ⟨before, after, rfl, hbefore, hrow⟩
    refine ⟨decide_eq_true hrow, before, after, rfl, fun earlier hmem => ?_⟩
    simpa using not_misfits_iff.mpr (hbefore earlier hmem)

end Plan

/-! ## Answers -/

namespace Engine

variable {e : Engine ε} {spec : QuerySpec} {p : Plan} {rows : List NativeRow}

/-- The plan of a query and the rows that answer it. Each row has one value for every selection. -/
def answer (e : Engine ε) (spec : QuerySpec) : Except (RunError ε) (Plan × List NativeRow) :=
  match e.catalog.plan spec with
  | .error cause => .error (.plan cause)
  | .ok p =>
    match e.executor p with
    | .error cause => .error (.storage cause)
    | .ok rows =>
      match rows.find? p.misfits with
      | some row => .error (.width ⟨p.selections.length, row.length⟩)
      | none => .ok (p, rows)

/-- A result that puts the rows under keys, and does nothing else that could fail, is made of the
answer. -/
theorem result_eq {α : Type} {shape : Plan → List NativeRow → Except WidthError α}
    (key : Selection → String) (make : Plan → List (Dict Value) → α)
    (h : ∀ p rows, shape p rows = (rows.mapM (p.keyed key)).map (make p)) :
    e.result shape spec =
      (e.answer spec).map fun found => make found.1 (found.2.map (found.1.record key)) := by
  rw [result, Catalog.serve, answer]
  cases e.catalog.plan spec with
  | error cause => rfl
  | ok p =>
    simp only [pure_bind, Id.run_pure]
    cases e.executor p with
    | error cause => rfl
    | ok rows =>
      -- a plan that is answered: what is left is the search for a row of the wrong width
      show (shape p rows).mapError RunError.width = _
      simp only [h, Plan.mapM_keyed]
      cases rows.find? p.misfits <;> rfl

/-- Raw rows are those of the answer under the names of their columns. -/
theorem runRaw_eq (e : Engine ε) (spec : QuerySpec) :
    e.runRaw spec =
      (e.answer spec).map fun found => found.2.map (found.1.record Selection.native) := by
  refine result_eq Selection.native (fun _ data => data) fun p rows => ?_
  rw [Plan.rawRows]
  cases rows.mapM (p.keyed Selection.native) <;> rfl

/-- An interpreted result has the rows of the answer under dotted paths. -/
theorem run_eq (e : Engine ε) (spec : QuerySpec) :
    e.run spec = (e.answer spec).map fun found =>
      ⟨found.2.map (found.1.record Selection.key), found.1.labels e.stripIdSuffix⟩ := by
  let make (p : Plan) (data : List (Dict Value)) : Interpreted := ⟨data, p.labels e.stripIdSuffix⟩
  refine result_eq Selection.key make fun p rows => ?_
  rw [Plan.interpret]
  cases rows.mapM (p.keyed Selection.key) <;> rfl

/-! ## What an answer tells -/

/-- There is an answer exactly if there is a plan, the executor answers it, and every row has one value
for each selection. -/
theorem answer_eq_ok_iff : e.answer spec = .ok (p, rows) ↔ e.catalog.plan spec = .ok p ∧
    e.executor p = .ok rows ∧ ∀ row ∈ rows, row.length = p.selections.length := by
  rw [answer]
  constructor
  · intro h
    split at h
    · cases h
    rename_i p' hp
    split at h
    · cases h
    rename_i rows' hrows
    split at h
    · cases h
    rename_i hfits
    cases h
    exact ⟨hp, hrows, Plan.find?_misfits_eq_none_iff.mp hfits⟩
  · rintro ⟨hp, hrows, hfits⟩
    simp only [hp, hrows, Plan.find?_misfits_eq_none_iff.mpr hfits]

/-- The executor answers a query with rows among which some are of the wrong width, and the fault tells
the width of the first of them. -/
def FirstMisfit (e : Engine ε) (spec : QuerySpec) (fault : WidthError) : Prop :=
  ∃ p before row after, e.catalog.plan spec = .ok p ∧ e.executor p = .ok (before ++ row :: after) ∧
    (∀ earlier ∈ before, earlier.length = p.selections.length) ∧
    row.length ≠ p.selections.length ∧ fault = ⟨p.selections.length, row.length⟩

theorem answer_eq_width_iff {fault : WidthError} :
    e.answer spec = .error (.width fault) ↔ e.FirstMisfit spec fault := by
  rw [answer]
  constructor
  · intro h
    split at h
    · cases h
    rename_i p hp
    split at h
    · cases h
    rename_i rows hrows
    split at h
    · rename_i row hrow
      cases h
      obtain ⟨before, after, rfl, hbefore, hwidth⟩ := Plan.find?_misfits_eq_some_iff.mp hrow
      exact ⟨p, before, row, after, hp, hrows, hbefore, hwidth, rfl⟩
    · cases h
  · rintro ⟨p, before, row, after, hp, hrows, hbefore, hwidth, rfl⟩
    have hrow := Plan.find?_misfits_eq_some_iff.mpr ⟨before, after, rfl, hbefore, hwidth⟩
    simp only [hp, hrows, hrow]

end Engine

end DottedQuery
