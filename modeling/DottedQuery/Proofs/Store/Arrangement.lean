/-
# DottedQuery.Proofs.Store.Arrangement -- arranging an answer only orders its rows

The program prints the rows of an answer in the order in which its tables are gone through
(`Database.executeArranged`), and what the rows are is said of `Database.execute`. The two succeed and
fail alike, and have the same rows the same number of times (`Database.executeArranged_perm`); so do the
results that an engine makes of them, which is what the program prints (`Engine.results_perm`).

What is proved of the order itself is that it is one: of any two assignments one may come first, and
the rows are in order from the first to the last (`Prepared.exists_arrangement`). By which columns they
come is the engine's choice, and nothing is claimed of it here.
-/
import DottedQuery.Proofs.Result.Agreement
import DottedQuery.Store.Arrangement
import Mathlib.Data.Int.Order.Basic
import Mathlib.Data.List.Lex

namespace DottedQuery

open Sql (JoinKind)

namespace Store

/-! ## The order of assignments -/

namespace Assignment

variable {a b c : Assignment} {table : Nat} {column : IndexColumn} {order : List (Nat × IndexColumn)}

/-- The rank of what an assignment has in a column. Nulls come first. -/
def rankAt (a : Assignment) (table : Nat) (column : IndexColumn) : List Int :=
  let slot : Slot := ⟨table, column.position, { collation := column.collation }⟩
  ((a.cell slot).rank slot.manner).getD []

/-- Whether one rank comes before another in a column. -/
def Leads (column : IndexColumn) (r r' : List Int) : Prop := if column.falling then r' < r else r < r'

theorem Leads.trans {r r' r'' : List Int} (h : Leads column r r') (h' : Leads column r' r'') :
    Leads column r r'' := by
  by_cases hfalling : column.falling = true
  · simp only [Leads, hfalling, if_true] at h h' ⊢
    exact lt_trans h' h
  · simp only [Leads, hfalling] at h h' ⊢
    exact lt_trans h h'

theorem Leads.ne {r r' : List Int} (h : Leads column r r') : r ≠ r' := by
  unfold Leads at h
  split at h
  · exact (ne_of_lt h).symm
  · exact ne_of_lt h

theorem leads_or_leads {r r' : List Int} (h : r ≠ r') : Leads column r r' ∨ Leads column r' r := by
  unfold Leads
  split
  · exact lt_or_gt_of_ne h.symm
  · exact lt_or_gt_of_ne h

/-- The first column decides, and the others do if it has the same rank on both sides. -/
theorem precedes_cons : precedes ((table, column) :: order) a b = true ↔
    a.rankAt table column = b.rankAt table column ∧ precedes order a b = true ∨
      Leads column (a.rankAt table column) (b.rankAt table column) := by
  show (if a.rankAt table column = b.rankAt table column then precedes order a b
    else if column.falling then decide (b.rankAt table column < a.rankAt table column)
    else decide (a.rankAt table column < b.rankAt table column)) = true ↔ _
  split
  · rename_i hrank
    exact ⟨fun h => Or.inl ⟨hrank, h⟩, fun h => h.elim And.right fun h => absurd hrank h.ne⟩
  · rename_i hrank
    unfold Leads
    split <;> simp [hrank]

/-- Of two assignments one may come first. -/
theorem precedes_total (order : List (Nat × IndexColumn)) (a b : Assignment) :
    (precedes order a b || precedes order b a) = true := by
  rw [Bool.or_eq_true]
  induction order with
  | nil => exact Or.inl rfl
  | cons first order ih =>
    obtain ⟨table, column⟩ := first
    rw [precedes_cons, precedes_cons]
    by_cases hrank : a.rankAt table column = b.rankAt table column
    · exact ih.imp (fun h => Or.inl ⟨hrank, h⟩) fun h => Or.inl ⟨hrank.symm, h⟩
    · exact (leads_or_leads hrank).imp Or.inr Or.inr

theorem precedes_trans (order : List (Nat × IndexColumn)) (a b c : Assignment)
    (h : precedes order a b = true) (h' : precedes order b c = true) : precedes order a c = true := by
  induction order with
  | nil => rfl
  | cons first order ih =>
    obtain ⟨table, column⟩ := first
    rw [precedes_cons] at *
    rcases h with ⟨hrank, h⟩ | h
    · rw [hrank]
      exact h'.imp_left fun ⟨hrank', h'⟩ => ⟨hrank', ih h h'⟩
    · rcases h' with ⟨hrank', -⟩ | h'
      · exact Or.inr (hrank' ▸ h)
      · exact Or.inr (h.trans h')

end Assignment

/-! ## Arranged answers -/

/-- An arranged answer is read off the assignments that an answer is read off, put in order. -/
theorem Prepared.exists_arrangement (p : Prepared) : ∃ found : List Assignment,
    found.Perm (p.assignments.filter p.admits) ∧
      found.Pairwise (fun a b => Assignment.precedes p.order a b = true) ∧
      p.arranged = found.map fun a => p.columns.map a.cell :=
  ⟨_, List.mergeSort_perm _ _, List.pairwise_mergeSort (Assignment.precedes_trans p.order)
    (Assignment.precedes_total p.order) _, rfl⟩

theorem Prepared.arranged_perm (p : Prepared) : p.arranged.Perm p.rows := by
  obtain ⟨found, hfound, -, harranged⟩ := p.exists_arrangement
  rw [harranged]
  exact hfound.map _

/-- Executing a plan gives the same rows in both orders, or fails for the same reason. -/
theorem Database.executeArranged_perm (db : Database) (kind : JoinKind) (p : Plan) :
    SameOutcome List.Perm (db.executeArranged kind p) (db.execute kind p) := by
  rw [executeArranged, execute, answer, bind_assoc]
  refine (SameOutcome.refl Eq.refl (prepare db (p.select kind))).bind fun s s' hs => ?_
  cases hs
  exact .ok (s.arranged_perm.map _)

end Store

/-! ## Results -/

namespace Engine

variable {ε : Type} {e e' : Engine ε} {spec : QuerySpec}

/-- Executors whose rows are the same but for their order answer a query alike. That every row has the
right width matters, since of rows that do not the first one is told. -/
theorem answer_perm (hcatalog : e.catalog = e'.catalog) (haligned : e'.executor.IsAligned)
    (hperm : ∀ p, SameOutcome List.Perm (e.executor p) (e'.executor p)) :
    SameOutcome (fun found found' => found.1 = found'.1 ∧ found.2.Perm found'.2)
      (e.answer spec) (e'.answer spec) := by
  rw [answer, answer, hcatalog]
  cases e'.catalog.plan spec with
  | error cause => exact .error _
  | ok p =>
    have hfits := haligned p
    have hrows := hperm p
    dsimp only
    revert hfits hrows
    generalize e.executor p = found, e'.executor p = found'
    intro hfits hrows
    cases hrows with
    | error cause => exact .error _
    | @ok rows rows' hrows =>
      have hfits' : ∀ row ∈ rows', row.length = p.selections.length := hfits rows' rfl
      have hfits : ∀ row ∈ rows, row.length = p.selections.length :=
        fun row hrow => hfits' row (hrows.mem_iff.mp hrow)
      simp only [Plan.find?_misfits_eq_none_iff.mpr hfits, Plan.find?_misfits_eq_none_iff.mpr hfits']
      exact .ok ⟨rfl, hrows⟩

/-- The results that are made of an arranged answer have the rows of those that are made of the answer,
and the same labels. -/
theorem results_perm (c : Catalog) (stripIdSuffix : Bool) (db : Except Store.StoreError Store.Database)
    (kind : JoinKind) (spec : QuerySpec) :
    let arranged : Engine Store.StoreError :=
      ⟨c, fun p => do (← db).executeArranged kind p, stripIdSuffix⟩
    let plain : Engine Store.StoreError := ⟨c, fun p => do (← db).execute kind p, stripIdSuffix⟩
    SameOutcome List.Perm (arranged.runRaw spec) (plain.runRaw spec) ∧
      SameOutcome (fun r r' => r.data.Perm r'.data ∧ r.labels = r'.labels) (arranged.run spec)
        (plain.run spec) := by
  intro arranged plain
  have haligned : plain.executor.IsAligned := by
    intro p rows hrows
    obtain ⟨db', -, hrows⟩ := bind_eq_ok.mp hrows
    exact (Store.isAligned_execute db' kind).1 p rows hrows
  have hperm (p : Plan) : SameOutcome List.Perm (arranged.executor p) (plain.executor p) := by
    refine (SameOutcome.refl Eq.refl db).bind fun db' db'' hdb => ?_
    rw [hdb]
    exact db''.executeArranged_perm kind p
  have hanswer := @answer_perm _ arranged plain spec rfl haligned hperm
  rw [runRaw_eq, runRaw_eq, run_eq, run_eq]
  constructor
  · refine hanswer.map ?_
    rintro ⟨p, rows⟩ ⟨p', rows'⟩ ⟨rfl, hrows⟩
    exact hrows.map _
  · refine hanswer.map ?_
    rintro ⟨p, rows⟩ ⟨p', rows'⟩ ⟨rfl, hrows⟩
    exact ⟨hrows.map _, rfl⟩

end Engine

end DottedQuery
