/-
# DottedQuery.Proofs.Result.Agreement -- raw and interpreted results agree

The two results of a query fail together and with the same fault. If there are rows, a raw row is the
interpreted one with its entries inserted in order under the last segments of their keys: columns of
one name share a key, which stands where it came first and has the value that came last (`Rekeyed`).
This takes that no path is requested twice, since an interpreted row keeps only one value of such a path.

A fault of the width tells the first row that does not have one value for each selection. The rows of a
database always do (`isAligned_execute`).
-/
import DottedQuery.Proofs.Result.Interpretation
import DottedQuery.Store.Arrangement

namespace DottedQuery

variable {ε : Type} {spec : QuerySpec} {c : Catalog} {p : Plan}

/-! ## Rows under other keys -/

/-- A row has the entries of another one under new keys, as they come if they are inserted in order: a
key stands where it came first, and has the value that came last. -/
structure Rekeyed (rename : String → String) (row row' : Dict Value) : Prop where
  keys_eq : row'.keys = (row.keys.map rename).eraseDups
  get?_eq : ∀ key, row'.get? key = ((row.entries.filter (rename ·.1 = key)).getLast?).map (·.2)

/-- There is only one such row. -/
theorem Rekeyed.unique {rename : String → String} {row first second : Dict Value}
    (h : Rekeyed rename row first) (h' : Rekeyed rename row second) : first = second :=
  Dict.eq_of_get? (h.keys_eq.trans h'.keys_eq.symm)
    fun key => (h.get?_eq key).trans (h'.get?_eq key).symm

theorem rekeyed_ofList (rename : String → String) (row : Dict Value) :
    Rekeyed rename row (.ofList (row.entries.map fun entry => (rename entry.1, entry.2))) where
  keys_eq := by
    rw [Dict.keys_ofList, List.map_map, Dict.keys, List.map_map]
    rfl
  get?_eq key := by
    rw [Dict.get?_ofList, List.filter_map, List.getLast?_map, Option.map_map]
    rfl

/-! ## Rows of one answer under both kinds of keys -/

/-- The column of a selection is named like the last segment of its key. -/
theorem lastSegment_key_of_plan (hp : c.plan spec = .ok p) {s : Selection} (hs : s ∈ p.selections) :
    FieldPath.lastSegment s.key = s.native := by
  obtain ⟨field, -, hpath, -, hnative⟩ := exists_partner (selections_of_plan hp) hs
  rw [Selection.key, FieldPath.lastSegment_key, hpath, hnative]

/-- Distinct paths have distinct keys. -/
theorem nodup_keys_of_plan (hp : c.plan spec = .ok p) (h : (spec.fields.map (·.path)).Nodup) :
    (p.selections.map Selection.key).Nodup := by
  have hpaths : spec.fields.map (·.path) = p.selections.map (·.path) :=
    map_eq_of_forall₂ (fun _ _ h => h.1.symm) (selections_of_plan hp)
  have hkeys := (hpaths ▸ h).map FieldPath.key_injective
  rwa [List.map_map] at hkeys

/-- The raw row is the interpreted one under the last segments of its keys. -/
theorem rekeyed_record (hp : c.plan spec = .ok p) (h : (spec.fields.map (·.path)).Nodup)
    {row : NativeRow} (hrow : row.length = p.selections.length) :
    Rekeyed FieldPath.lastSegment (p.record Selection.key row) (p.record Selection.native row) := by
  have hnative : p.selections.map Selection.native =
      (p.selections.map Selection.key).map FieldPath.lastSegment := by
    rw [List.map_map]
    exact List.map_congr_left fun s hs => (lastSegment_key_of_plan hp hs).symm
  -- the interpreted row lost nothing, so its entries are all that the raw one is written with
  have hrecord : p.record Selection.native row = .ofList ((p.record Selection.key row).entries.map
      fun entry => (FieldPath.lastSegment entry.1, entry.2)) := by
    rw [Plan.entries_record (nodup_keys_of_plan hp h) hrow, Plan.record, hnative, List.zip_map_left]
    rfl
  rw [hrecord]
  exact rekeyed_ofList FieldPath.lastSegment _

/-- How the raw and the interpreted result of one query belong together. -/
inductive Agree :
    Except (RunError ε) (List (Dict Value)) → Except (RunError ε) Interpreted → Prop
  | failed (cause : RunError ε) : Agree (.error cause) (.error cause)
  | shaped {raw : List (Dict Value)} {result : Interpreted}
      (rows : List.Forall₂ (Rekeyed FieldPath.lastSegment) result.data raw) :
      Agree (.ok raw) (.ok result)

/-- The two results of a query agree if no path is requested twice. -/
theorem agree_of_nodup (e : Engine ε) (h : (spec.fields.map (·.path)).Nodup) :
    Agree (e.runRaw spec) (e.run spec) := by
  rw [e.runRaw_eq, e.run_eq]
  cases hanswer : e.answer spec with
  | error cause => exact .failed cause
  | ok found =>
    obtain ⟨p, rows⟩ := found
    obtain ⟨hp, -, hfits⟩ := Engine.answer_eq_ok_iff.mp hanswer
    refine .shaped ?_
    rw [List.forall₂_map_left_iff, List.forall₂_map_right_iff, List.forall₂_same]
    exact fun row hrow => rekeyed_record hp h (hfits row hrow)

/-! ## Rows of a database -/

/-- An executor whose rows always have one value for each selection. -/
def Executor.IsAligned (answer : Executor ε) : Prop :=
  ∀ p rows, answer p = .ok rows → ∀ row ∈ rows, row.length = p.selections.length

namespace Store

/-- A statement that is looked up has all its columns. -/
theorem length_columns_of_prepare {db : Database} {s : Sql.Select} {prepared : Prepared}
    (h : prepare db s = .ok prepared) : prepared.columns.length = s.columns.length := by
  rw [prepare] at h
  split at h
  · cases h
  obtain ⟨root, -, h⟩ := bind_eq_ok.mp h
  obtain ⟨⟨scope, joins⟩, -, h⟩ := bind_eq_ok.mp h
  obtain ⟨columns, hcolumns, h⟩ := bind_eq_ok.mp h
  obtain ⟨conditions, -, h⟩ := bind_eq_ok.mp h
  cases h
  exact (mapM_eq_ok.mp hcolumns).length_eq.symm

/-- Rows of cells for the selections of a plan become rows of values for them. -/
theorem length_of_mem_valuesOf {rows : List Row} {row : List Value}
    (h : ∀ cells ∈ rows, cells.length = p.selections.length) (hrow : row ∈ valuesOf p rows) :
    row.length = p.selections.length := by
  obtain ⟨cells, hcells, rfl⟩ := List.mem_map.mp hrow
  rw [List.length_zipWith, List.length_map, h cells hcells, Nat.min_self]

/-- Cells that are read for the columns of a looked-up statement. -/
theorem length_of_mem_cells {db : Database} {kind : Sql.JoinKind} {prepared : Prepared}
    (h : prepare db (p.select kind) = .ok prepared) {found : List Assignment} {cells : Row}
    (hcells : cells ∈ found.map fun a => prepared.columns.map a.cell) :
    cells.length = p.selections.length := by
  obtain ⟨a, -, rfl⟩ := List.mem_map.mp hcells
  rw [List.length_map, length_columns_of_prepare h, Plan.select, List.length_map]

/-- However the rows of a database are put in order, each has one value for every selection. -/
theorem isAligned_execute (db : Database) (kind : Sql.JoinKind) :
    Executor.IsAligned (db.execute kind) ∧ Executor.IsAligned (db.executeArranged kind) := by
  constructor
  · intro p rows h row hrow
    obtain ⟨found, hfound, h⟩ := bind_eq_ok.mp h
    obtain ⟨prepared, hprepared, hfound⟩ := bind_eq_ok.mp hfound
    cases h
    cases hfound
    exact length_of_mem_valuesOf (fun cells => length_of_mem_cells hprepared) hrow
  · intro p rows h row hrow
    obtain ⟨prepared, hprepared, h⟩ := bind_eq_ok.mp h
    cases h
    exact length_of_mem_valuesOf (fun cells => length_of_mem_cells hprepared) hrow

end Store

/-! ## Agreement -/

/-- An aligned executor gives no row that a fault could tell. -/
theorem not_firstMisfit_of_isAligned {e : Engine ε} (h : e.executor.IsAligned) (fault : WidthError) :
    ¬e.FirstMisfit spec fault := by
  rintro ⟨p, before, row, after, -, hrows, -, hwidth, -⟩
  have hmem : row ∈ before ++ row :: after := List.mem_append_right _ List.mem_cons_self
  exact hwidth (h p _ hrows row hmem)

theorem runRaw_eq_width_iff {e : Engine ε} {fault : WidthError} :
    e.runRaw spec = .error (.width fault) ↔ e.FirstMisfit spec fault := by
  rw [e.runRaw_eq, map_eq_error, Engine.answer_eq_width_iff]

theorem run_eq_width_iff {e : Engine ε} {fault : WidthError} :
    e.run spec = .error (.width fault) ↔ e.FirstMisfit spec fault := by
  rw [e.run_eq, map_eq_error, Engine.answer_eq_width_iff]

/-- If no path is requested twice, the two results of a query agree. Both fail because of the width of a
row exactly if the executor gives a row that does not have one value for each selection, and they tell
the first one. Neither does so with an aligned executor, and a database is one. -/
theorem raw_agrees_with_interpreted (e : Engine ε) (h : (spec.fields.map (·.path)).Nodup) :
    Agree (e.runRaw spec) (e.run spec) ∧
      (∀ fault, (e.runRaw spec = .error (.width fault) ↔ e.FirstMisfit spec fault) ∧
        (e.run spec = .error (.width fault) ↔ e.FirstMisfit spec fault)) ∧
      (e.executor.IsAligned → ∀ fault, e.runRaw spec ≠ .error (.width fault) ∧
        e.run spec ≠ .error (.width fault)) ∧
      ∀ (db : Store.Database) (kind : Sql.JoinKind),
        Executor.IsAligned (db.execute kind) ∧ Executor.IsAligned (db.executeArranged kind) := by
  refine ⟨agree_of_nodup e h, fun fault => ⟨runRaw_eq_width_iff, run_eq_width_iff⟩, ?_,
    Store.isAligned_execute⟩
  intro haligned fault
  have hfits : ¬e.FirstMisfit spec fault := not_firstMisfit_of_isAligned haligned fault
  exact ⟨fun hraw => hfits (runRaw_eq_width_iff.mp hraw), fun hrun => hfits (run_eq_width_iff.mp hrun)⟩

namespace Staff

/-- The name of the superior's superior and the own one: two columns of one name. -/
def cyUnderAda : NativeRow := [.text "Ada", .text "Cy"]

/-- Of two columns of one name the raw row keeps the last. A row without values, and not the one after
it, is what the fault is about. -/
theorem raw_agrees_with_interpreted_query :
    (query.fields.map (·.path)).Nodup ∧
      Agree ((engine [cyUnderAda]).runRaw query) ((engine [cyUnderAda]).run query) ∧
      (engine [cyUnderAda]).runRaw query = .ok [.ofList [("name", .text "Cy")]] ∧
      (engine [cyUnderAda, [], [.null]]).run query = .error (.width ⟨2, 0⟩) := by
  have hdistinct : (query.fields.map (·.path)).Nodup := by decide
  obtain ⟨hagree, -⟩ := raw_agrees_with_interpreted (engine [cyUnderAda]) hdistinct
  obtain ⟨-, hfaults, -⟩ := raw_agrees_with_interpreted (engine [cyUnderAda, [], [.null]]) hdistinct
  refine ⟨hdistinct, hagree, rfl, (hfaults ⟨2, 0⟩).2.mpr ?_⟩
  refine ⟨_, [cyUnderAda], [], [[.null]], rfl, rfl, ?_, nofun, rfl⟩
  intro earlier hearlier
  rw [List.mem_singleton.mp hearlier]
  rfl

end Staff

end DottedQuery
