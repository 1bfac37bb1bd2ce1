/-
# DottedQuery.Proofs.Store.TruthValues -- filters on truth values and what is shown

A database has no truth values. What is filtered for is 1 or 0, and what is shown is whether a stored
integer is different from 0. So the two agree on the integers 0 and 1 only: another integer is shown as
true, but the filter for true leaves its row out and the filter against true lets it in. If a column
stores integers, then a filter for a truth value gives the rows that show it exactly if the value is
false or no other integers are reached, and so it is with the filter against it
(`rows_of_truth_filters`).
-/
import DottedQuery.Proofs.Catalog.Introspected
import DottedQuery.Proofs.Store.Partition

namespace DottedQuery

open Sql (JoinKind)
open Store (Cell Manner)

/-! ## Parts of a list and of what is made of it -/

/-- What is made of the entries that meet a condition is the part of a list that meets another one
exactly if the two conditions say the same of all entries. -/
theorem perm_map_filter_iff {α β : Type} {f : α → β} {meets : α → Bool} {shows : β → Bool}
    {xs : List α} : ((xs.filter meets).map f).Perm ((xs.map f).filter shows) ↔
      ∀ x ∈ xs, (meets x = true ↔ shows (f x) = true) := by
  rw [List.filter_map]
  constructor
  · intro hperm
    have hshows : ∀ x ∈ xs, meets x = true → shows (f x) = true := by
      intro x hx hmeets
      have hmem := hperm.mem_iff.mp (List.mem_map_of_mem (List.mem_filter.mpr ⟨hx, hmeets⟩))
      obtain ⟨x', hx', hsame⟩ := List.mem_map.mp hmem
      rw [← hsame]
      exact (List.mem_filter.mp hx').2
    -- the one part is in the other, and they are equally long
    have hlength := hperm.length_eq
    rw [List.length_map, List.length_map] at hlength
    have hboth : (xs.filter (shows ∘ f)).filter meets = xs.filter meets := by
      rw [List.filter_filter]
      refine List.filter_congr fun x hx => ?_
      cases hmeets : meets x with
      | false => rfl
      | true => exact hshows x hx hmeets
    rw [← hboth, List.length_filter_eq_length_iff] at hlength
    exact fun x hx => ⟨hshows x hx, fun h => hlength x (List.mem_filter.mpr ⟨hx, h⟩)⟩
  · intro hsame
    refine List.Perm.of_eq (congrArg (List.map f) (List.filter_congr fun x hx => ?_))
    exact Bool.eq_iff_iff.mpr (hsame x hx)

/-- What is selected is the part of the list that meets the condition. -/
theorem Selects.perm {α β : Type} {meets : β → α → Bool} {xs part : List α} {condition : β}
    (h : Selects meets xs condition part) (hxs : xs.Nodup) : part.Perm (xs.filter (meets condition)) := by
  refine (List.perm_ext_iff_of_nodup h.1 (hxs.filter _)).mpr fun x => ?_
  rw [h.2, List.mem_filter]

/-! ## Integers as truth values -/

namespace Store.Cell

variable {m : Manner} {b : Bool} {n : Int64} {cell : Cell}

/-- Null or an integer. -/
def Whole : Cell → Prop
  | null | int _ => True
  | real _ | text _ | blob _ => False

/-- Not an integer other than 0 and 1. -/
def Binary (cell : Cell) : Prop := ∀ n, cell = int n → n = 0 ∨ n = 1

theorem binary_int : (int n).Binary ↔ n = 0 ∨ n = 1 := by
  constructor
  · intro h
    exact h n rfl
  · rintro h k hk
    cases hk
    exact h

theorem orderOfInt_injective {x y : Int} (h : Decimal.orderOfInt x = Decimal.orderOfInt y) : x = y := by
  have hunit : ∀ k, Nat.pow 2 k ≠ 0 := fun k => (Nat.two_pow_pos k).ne'
  exact Int.eq_of_mul_eq_mul_right (Int.natCast_ne_zero.mpr (hunit Decimal.finest)) h

/-- Where integers do not become texts, they are ranked as numbers. -/
theorem rank_int (hm : m.affinity ≠ .text) (n : Int64) :
    (int n).rank m = some [0, Decimal.orderOfInt n.toInt] := by
  rw [rank, Affinity.compared, if_neg hm]

theorem rank_int_inj {k : Int64} :
    [0, Decimal.orderOfInt n.toInt] = [0, Decimal.orderOfInt k.toInt] ↔ n = k := by
  constructor
  · intro h
    have horder := (List.cons.inj (List.cons.inj h).2).1
    exact Int64.toInt_inj.mp (orderOfInt_injective horder)
  · rintro rfl
    rfl

/-- An integer equals a truth value if it is the number that this is stored as. -/
theorem holds_equal_int (hm : m.affinity ≠ .text) :
    (Condition.compare .equal (.bool b)).holds m (int n) = true ↔ n = if b then 1 else 0 := by
  rw [Condition.holds_compare (rank_int hm _), rank_int hm, Option.any_some, Comparison.holds,
    decide_eq_true_iff, rank_int_inj]

/-- An integer differs from a truth value if it is another number. -/
theorem holds_different_int (hm : m.affinity ≠ .text) :
    (Condition.compare .different (.bool b)).holds m (int n) = true ↔ n ≠ if b then 1 else 0 := by
  rw [Condition.holds_compare (rank_int hm _), rank_int hm, Option.any_some, Comparison.holds,
    decide_eq_true_iff, Ne, rank_int_inj]

/-- An integer is shown as a truth value by whether it is 0. -/
theorem toValue_int : (int n).toValue .boolean = .bool b ↔ (n ≠ 0 ↔ b = true) := by
  show Value.bool (n != 0) = .bool b ↔ _
  rw [Value.bool.injEq, Bool.eq_iff_iff, bne_iff_ne]

/-- Of null and the integers, all but the integers other than 0 and 1 are equal to just the truth value
that they are shown as. Nothing but 0 is shown as false. -/
theorem holds_equal_iff_toValue (hm : m.affinity ≠ .text) (hcell : cell.Whole) :
    ((Condition.compare .equal (.bool b)).holds m cell = true ↔ cell.toValue .boolean = .bool b) ↔
      (b = true → cell.Binary) := by
  cases cell with
  | real x | text bytes | blob bytes => exact hcell.elim
  | null => exact iff_of_true ⟨nofun, nofun⟩ fun _ => nofun
  | int n =>
    rw [holds_equal_int hm, toValue_int, binary_int]
    cases b with
    | false => simp
    | true =>
      by_cases hn : n = 0
      · simp [hn]
      · simp [hn]

/-- So it is with what is different from a truth value and not shown as it. -/
theorem holds_different_toValue_iff (hm : m.affinity ≠ .text) (hcell : cell.Whole) :
    ((Condition.compare .different (.bool b)).holds m cell = true → cell.toValue .boolean ≠ .bool b) ↔
      (b = true → cell.Binary) := by
  cases cell with
  | real x | text bytes | blob bytes => exact hcell.elim
  | null => exact iff_of_true (fun _ => nofun) fun _ => nofun
  | int n =>
    rw [holds_different_int hm, Ne, Ne, toValue_int, binary_int]
    cases b with
    | false => simp
    | true =>
      by_cases hn : n = 0
      · simp [hn]
      · simp [hn]

end Store.Cell

/-! ## Filters on truth values -/

/-- Whether a row shows a truth value at a position. -/
def showsTruth (i : Nat) (b : Bool) (row : List Value) : Bool :=
  match row[i]? with
  | some (.bool shown) => shown == b
  | _ => false

variable {c : Catalog} {db : Store.Database} {kind : JoinKind} {spec : QuerySpec} {p : Plan}
  {field : FieldSpec} {r : Resolution} {rows : List (List Value)} {i : Nat} {b : Bool}

theorem showsTruth_iff {row : List Value} {v : Value} (h : row[i]? = some v) :
    showsTruth i b row = true ↔ v = .bool b := by
  rw [showsTruth, h]
  cases v with
  | bool shown => simp
  | null | int n | float x | text s | bytes bs => exact iff_of_false nofun nofun

/-- The cell that a choice has at the end of a path. -/
def RecordGraph.reached (g : RecordGraph) (path : FieldPath) (σ : Choice) : Cell :=
  g.cellAt σ path.relationships path.field

open RecordGraph

/-- The row of a choice shows what the cell is read as to which the path of the field leads. -/
theorem showsTruth_row (hfield : spec.fields[i]? = some field)
    (hr : c.resolve spec.table field.path = .ok r) (hboolean : r.field.dataType = .boolean)
    (σ : Choice) : showsTruth i b ((spec.graph c db).row spec σ) = true ↔
      ((spec.graph c db).reached field.path σ).toValue .boolean = .bool b := by
  refine showsTruth_iff ?_
  rw [reached, row, List.getElem?_map, hfield, Option.map_some, value,
    fieldAt?_of_resolve (g := spec.graph c db) hr, ← hboolean]

section

variable {choices part : List Choice}

/-- What is selected for being equal to a truth value are the rows that show it, exactly if the value is
false or there are no other integers than 0 and 1. -/
theorem perm_iff_binary (hfield : spec.fields[i]? = some field)
    (hr : c.resolve spec.table field.path = .ok r) (hboolean : r.field.dataType = .boolean)
    (hchoices : choices.Nodup) (hm : ((spec.graph c db).mannerOf field.path).affinity ≠ .text)
    (hwhole : ∀ σ ∈ choices, ((spec.graph c db).reached field.path σ).Whole)
    (hpart : Selects ((spec.graph c db).meets field.path) choices (.compare .equal (.bool b)) part) :
    (part.map ((spec.graph c db).row spec)).Perm
        ((choices.map ((spec.graph c db).row spec)).filter (showsTruth i b)) ↔
      (b = true → ∀ σ ∈ choices, ((spec.graph c db).reached field.path σ).Binary) := by
  have hperm := (hpart.perm hchoices).map ((spec.graph c db).row spec)
  rw [hperm.congr_left, perm_map_filter_iff]
  constructor
  · intro h htrue σ hσ
    have hsame := h σ hσ
    rw [showsTruth_row hfield hr hboolean] at hsame
    exact (Store.Cell.holds_equal_iff_toValue hm (hwhole σ hσ)).mp hsame htrue
  · intro h σ hσ
    rw [showsTruth_row hfield hr hboolean]
    exact (Store.Cell.holds_equal_iff_toValue hm (hwhole σ hσ)).mpr fun htrue => h htrue σ hσ

/-- What is selected for being different from a truth value shows it in no row, exactly if the value is
false or there are no other integers than 0 and 1. -/
theorem hidden_iff_binary (hfield : spec.fields[i]? = some field)
    (hr : c.resolve spec.table field.path = .ok r) (hboolean : r.field.dataType = .boolean)
    (hm : ((spec.graph c db).mannerOf field.path).affinity ≠ .text)
    (hwhole : ∀ σ ∈ choices, ((spec.graph c db).reached field.path σ).Whole)
    (hpart : Selects ((spec.graph c db).meets field.path) choices (.compare .different (.bool b)) part) :
    (∀ row ∈ part.map ((spec.graph c db).row spec), showsTruth i b row = false) ↔
      (b = true → ∀ σ ∈ choices, ((spec.graph c db).reached field.path σ).Binary) := by
  rw [List.forall_mem_map]
  constructor
  · intro h htrue σ hσ
    refine (Store.Cell.holds_different_toValue_iff hm (hwhole σ hσ)).mp (fun hmeets hshown => ?_) htrue
    have hhidden := h σ ((hpart.2 σ).mpr ⟨hσ, hmeets⟩)
    rw [(showsTruth_row hfield hr hboolean σ).mpr hshown] at hhidden
    cases hhidden
  · intro h σ hσ
    obtain ⟨hσ, hmeets⟩ := (hpart.2 σ).mp hσ
    have hhidden := (Store.Cell.holds_different_toValue_iff hm (hwhole σ hσ)).mpr
      (fun htrue => h htrue σ hσ) hmeets
    refine Bool.eq_false_iff.mpr fun hshown => ?_
    exact hhidden ((showsTruth_row hfield hr hboolean σ).mp hshown)

end

/-- A filter for a truth value on a requested field, and one against it, can be planned. If the column
stores integers or null and does not make texts of them, the first filter gives the rows of the query
that show the value, and the second gives none of them, exactly if the value is false or the column has
no other integers than 0 and 1 in the records that the query reaches. -/
theorem rows_of_truth_filters (hp : c.plan spec = .ok p) (hfield : spec.fields[i]? = some field)
    (hr : c.resolve spec.table field.path = .ok r) (hboolean : r.field.dataType = .boolean) (b : Bool) :
    ∃ equal different, c.plan (spec.filteredBy [⟨field.path, .exactly, .bool b⟩]) = .ok equal ∧
      c.plan (spec.filteredBy [⟨field.path, .not, .bool b⟩]) = .ok different ∧
      ∀ (db : Store.Database) (kind : JoinKind) rows, db.execute kind p = .ok rows →
        ∃ choices equalRows differentRows, (spec.graph c db).ChoicesOf kind spec choices ∧
          rows = choices.map ((spec.graph c db).row spec) ∧
          db.execute kind equal = .ok equalRows ∧ db.execute kind different = .ok differentRows ∧
          (((spec.graph c db).mannerOf field.path).affinity ≠ .text →
            (∀ σ ∈ choices, ((spec.graph c db).reached field.path σ).Whole) →
            (equalRows.Perm (rows.filter (showsTruth i b)) ↔
              (b = true → ∀ σ ∈ choices, ((spec.graph c db).reached field.path σ).Binary)) ∧
            ((∀ row ∈ differentRows, showsTruth i b row = false) ↔
              (b = true → ∀ σ ∈ choices, ((spec.graph c db).reached field.path σ).Binary))) := by
  have hequal : (⟨field.path, .exactly, .bool b⟩ : FilterSpec).condition r.field.dataType =
      .ok (.compare .equal (.bool b)) := by
    rw [hboolean]
    rfl
  have hdifferent : (⟨field.path, .not, .bool b⟩ : FilterSpec).condition r.field.dataType =
      .ok (.compare .different (.bool b)) := by
    rw [hboolean]
    rfl
  obtain ⟨equal, hplan⟩ := (Catalog.exists_plan_filteredBy_iff hp hr).mpr ⟨_, hequal⟩
  obtain ⟨different, hplan'⟩ := (Catalog.exists_plan_filteredBy_iff hp hr).mpr ⟨_, hdifferent⟩
  refine ⟨equal, different, hplan, hplan', fun db kind rows hrows => ?_⟩
  have hpath : field.path ∈ spec.paths :=
    List.mem_append_left _ (List.mem_map_of_mem (List.mem_of_getElem? hfield))
  obtain ⟨start, choices, hb, hlimit, hchoices, rfl⟩ := exists_choicesOf hp hrows
  obtain ⟨part, hpart, hexecute⟩ := exists_part hb hlimit hpath hr hequal hplan hchoices
  obtain ⟨part', hpart', hexecute'⟩ := exists_part hb hlimit hpath hr hdifferent hplan' hchoices
  exact ⟨choices, _, _, hchoices, rfl, hexecute, hexecute', fun hm hwhole =>
    ⟨perm_iff_binary hfield hr hboolean hchoices.nodup hm hwhole hpart,
      hidden_iff_binary hfield hr hboolean hm hwhole hpart'⟩⟩

namespace Tracks

open Catalog (entityOfTable introspect isSystemTable userTables_of_sorted)

/-- Three tracks, of which the first is not explicit and the second is. -/
def tracks (third : Int64) : Store.Table where
  name := "tracks"
  columns := [⟨"explicit", "BOOLEAN", .numeric, .binary, false, false⟩]
  records := [⟨1, [.int 0]⟩, ⟨2, [.int 1]⟩, ⟨3, [.int third]⟩]

def database (third : Int64) : Store.Database where
  tables := [tracks third]

def catalog : Catalog := ⟨[entityOfTable [] (tracks 0)]⟩

theorem introspect_database (third : Int64) : introspect (database third) = .ok catalog := by
  have huser : ∀ t ∈ (database third).tables, isSystemTable t.name = false := by
    intro t ht
    rw [List.mem_singleton.mp ht]
    show isSystemTable "tracks" = false
    decide
  rw [introspect, Catalog.entitiesOfDatabase, userTables_of_sorted huser (List.pairwise_singleton _ _)]
  rfl

def explicit : FieldPath := ⟨[], "explicit", by decide⟩

/-- Whether tracks are explicit. -/
def query : QuerySpec where
  table := "tracks"
  fields := [⟨explicit, none⟩]
  filters := []

/-- Two of the three tracks are explicit and shown as this, and the filter gives the two. -/
theorem rows_of_truth_filters_tracks : introspect (database 1) = .ok catalog ∧
    ∃ p equal rows equalRows, catalog.plan query = .ok p ∧
    catalog.plan (query.filteredBy [⟨explicit, .exactly, .bool true⟩]) = .ok equal ∧
    (database 1).execute .inner p = .ok rows ∧ (database 1).execute .inner equal = .ok equalRows ∧
    rows = [[.bool false], [.bool true], [.bool true]] ∧
    equalRows.Perm (rows.filter (showsTruth 0 true)) := by
  obtain ⟨p, r, hp, hr, hboolean, hrows⟩ : ∃ p r, catalog.plan query = .ok p ∧
      catalog.resolve query.table explicit = .ok r ∧ r.field.dataType = .boolean ∧
      (database 1).execute .inner p = .ok [[.bool false], [.bool true], [.bool true]] :=
    ⟨_, _, rfl, rfl, rfl, rfl⟩
  obtain ⟨equal, different, hequal, -, hall⟩ :=
    rows_of_truth_filters (i := 0) hp rfl hr hboolean true
  obtain ⟨choices, equalRows, differentRows, hchoices, -, hequalRows, -, hiff⟩ :=
    hall (database 1) .inner _ hrows
  have hcells : ∀ σ ∈ choices, ∃ n : Int64, (n = 0 ∨ n = 1) ∧
      (query.graph catalog (database 1)).reached explicit σ = .int n := by
    intro σ hσ
    obtain ⟨record, hrecord, hseat⟩ := ((hchoices.mem_iff σ).mp hσ).1.root
    have hrecord : record < 3 := hrecord
    have hseat : σ explicit.relationships = some record := hseat
    rw [reached, cellAt, hseat]
    obtain rfl | rfl | rfl : record = 0 ∨ record = 1 ∨ record = 2 := by omega
    · exact ⟨0, .inl rfl, rfl⟩
    · exact ⟨1, .inr rfl, rfl⟩
    · exact ⟨1, .inr rfl, rfl⟩
  have hwhole : ∀ σ ∈ choices, ((query.graph catalog (database 1)).reached explicit σ).Whole := by
    intro σ hσ
    obtain ⟨n, -, hn⟩ := hcells σ hσ
    rw [hn]
    trivial
  have hbinary : ∀ σ ∈ choices, ((query.graph catalog (database 1)).reached explicit σ).Binary := by
    intro σ hσ
    obtain ⟨n, hbit, hn⟩ := hcells σ hσ
    rw [hn, Store.Cell.binary_int]
    exact hbit
  obtain ⟨hperm, -⟩ := hiff (by decide) hwhole
  exact ⟨introspect_database 1, p, equal, _, equalRows, hp, hequal, hrows, hequalRows, rfl,
    hperm.mpr fun _ => hbinary⟩

/-- The answer to a query over the catalog of a database itself. -/
def answer (db : Store.Database) (spec : QuerySpec) : Option (List (List Value)) := do
  let c ← (introspect db).toOption
  let p ← (c.plan spec).toOption
  (db.execute .inner p).toOption

/-- If 2 is stored in the third track, two tracks are shown as explicit, but the filter gives one of
them, and the filter against it gives the other. -/
theorem answer_two :
    (answer (database 2) query).map (·.map (showsTruth 0 true)) = some [false, true, true] ∧
      (answer (database 2) (query.filteredBy [⟨explicit, .exactly, .bool true⟩])).map
        (·.map (showsTruth 0 true)) = some [true] ∧
      (answer (database 2) (query.filteredBy [⟨explicit, .not, .bool true⟩])).map
        (·.map (showsTruth 0 true)) = some [false, true] := by
  refine ⟨?_, ?_, ?_⟩
  · decide +kernel
  · decide +kernel
  · decide +kernel

end Tracks

end DottedQuery
