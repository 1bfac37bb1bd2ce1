/-
# DottedQuery.Proofs.Result.Interpretation -- interpreted results lose and mix up nothing

A dictionary keeps one entry for each key, so rows and labels under dotted paths could lose what two
fields put under one key. They do not for a query that comes of a draft: the fields of a draft are
written under distinct texts, and the key of a path is the text that it was read from. What the keys
are is settled where the draft is checked (`keys_of_validate`), survives planning (`keys_of_plan`), and
is used where the rows are put under them (`interpreted_of_draft`).
-/
import DottedQuery.Proofs.Dictionaries
import DottedQuery.Proofs.Plan.PrefixTree
import DottedQuery.Proofs.Result.Answers
import DottedQuery.Proofs.Spec.Dotted

namespace DottedQuery

variable {ε α : Type} {d : Draft} {spec : QuerySpec} {c : Catalog} {p : Plan}

/-! ## Keys of a draft -/

/-- Each entry of a draft's fields becomes a field under the same text with the same label. -/
theorem fields_of_validate (h : d.validate = .ok spec) :
    List.Forall₂ (fun entry field => field.path.key = entry.1 ∧ field.label = entry.2)
      d.fields.entries spec.fields := by
  rw [Draft.validate] at h
  split at h
  · cases h
  obtain ⟨fields, hfields, h⟩ := bind_eq_ok.mp h
  obtain ⟨filters, -, h⟩ := bind_eq_ok.mp h
  cases h
  refine (mapM_eq_ok.mp hfields).imp fun entry field hfield => ?_
  obtain ⟨path, hpath, hfield⟩ := bind_eq_ok.mp hfield
  cases hfield
  exact ⟨FieldPath.key_of_parse (mapError_succeeds.mp hpath), rfl⟩

/-! ## Keys of a plan -/

/-- Each field of a query becomes a selection with its path and its label, on a column of its name. -/
theorem selections_of_plan (h : c.plan spec = .ok p) :
    List.Forall₂ (fun field s => s.path = field.path ∧ s.label = field.label ∧
      s.native = field.path.field) spec.fields p.selections := by
  obtain ⟨start, h⟩ := Catalog.plan_spec h
  refine h.selections.imp ?_
  rintro field s ⟨r, n, hr, hreads, hpath, -, hlabel⟩
  exact ⟨hpath, hlabel, hreads.field_eq hr⟩

/-- The selections of a query that comes of a draft have the texts and the labels of the draft. -/
theorem selections_of_draft (hd : d.validate = .ok spec) (hp : c.plan spec = .ok p) :
    List.Forall₂ (fun entry (s : Selection) => s.key = entry.1 ∧ s.label = entry.2)
      d.fields.entries p.selections := by
  refine forall₂_trans ?_ (fields_of_validate hd) (selections_of_plan hp)
  rintro entry field s ⟨hkey, hlabel⟩ ⟨hpath, hlabel', -⟩
  exact ⟨(congrArg FieldPath.key hpath).trans hkey, hlabel'.trans hlabel⟩

/-! ## Distinct keys -/

namespace Plan

/-- If no two selections have one key, a row keeps all its values. -/
theorem entries_record {key : Selection → String} {row : NativeRow}
    (h : (p.selections.map key).Nodup) (hrow : row.length = p.selections.length) :
    (p.record key row).entries = (p.selections.map key).zip row := by
  have hfst : ((p.selections.map key).zip row).map (·.1) = p.selections.map key := by
    refine List.map_fst_zip ?_
    rw [List.length_map, hrow]
  refine Dict.entries_ofList ?_
  rw [hfst]
  exact h

theorem keys_record {key : Selection → String} {row : NativeRow}
    (h : (p.selections.map key).Nodup) (hrow : row.length = p.selections.length) :
    (p.record key row).keys = p.selections.map key := by
  rw [Dict.keys, entries_record h hrow]
  refine List.map_fst_zip ?_
  rw [List.length_map, hrow]

theorem values_record {key : Selection → String} {row : NativeRow}
    (h : (p.selections.map key).Nodup) (hrow : row.length = p.selections.length) :
    (p.record key row).values = row := by
  rw [Dict.values, entries_record h hrow]
  refine List.map_snd_zip ?_
  rw [List.length_map, hrow]

/-- If no two selections have one key, each keeps its label. -/
theorem entries_labels (h : (p.selections.map Selection.key).Nodup) (stripIdSuffix : Bool) :
    (p.labels stripIdSuffix).entries = p.selections.map fun s => (s.key, s.labelFor stripIdSuffix) := by
  refine Dict.entries_ofList ?_
  rw [List.map_map]
  exact h

end Plan

/-! ## Interpreted results -/

/-- The label that is made for a selection without one is made of the last segment of its key. -/
theorem labelFor_eq (s : Selection) (stripIdSuffix : Bool) : s.labelFor stripIdSuffix =
    s.label.getD (Naming.humanize (FieldPath.lastSegment s.key) stripIdSuffix) := by
  rw [Selection.labelFor, Selection.key, FieldPath.lastSegment_key]

/-- An interpreted result has a row for each native row, in the same order, and in it under every path,
as it is written in the draft, the value that the native row has at its place; and under every path a
label, which is the one given or else made of the last segment. -/
theorem interpreted_of_draft (e : Engine ε) {rows : List NativeRow} (hd : d.validate = .ok spec)
    (hp : e.catalog.plan spec = .ok p) (hrows : e.executor p = .ok rows)
    (hwidth : ∀ row ∈ rows, row.length = d.fields.size) :
    ∃ result, e.run spec = .ok result ∧
      List.Forall₂ (fun native row => row.keys = d.fields.keys ∧ row.values = native) rows
        result.data ∧
      result.labels.keys = d.fields.keys ∧
      result.labels.values = d.fields.entries.map fun entry =>
        entry.2.getD (Naming.humanize (FieldPath.lastSegment entry.1) e.stripIdSuffix) := by
  have hselections := selections_of_draft hd hp
  have hkeys : p.selections.map Selection.key = d.fields.keys :=
    (map_eq_of_forall₂ (fun _ _ h => h.1.symm) hselections).symm
  -- the keys are those of a dictionary, and nothing on the way has changed them
  have hdistinct : (p.selections.map Selection.key).Nodup := hkeys ▸ d.fields.nodup_keys
  have hfits : ∀ row ∈ rows, row.length = p.selections.length :=
    fun row hrow => (hwidth row hrow).trans hselections.length_eq
  refine ⟨⟨rows.map (p.record Selection.key), p.labels e.stripIdSuffix⟩, ?_, ?_, ?_, ?_⟩
  · rw [e.run_eq, Engine.answer_eq_ok_iff.mpr ⟨hp, hrows, hfits⟩]
    rfl
  · refine List.forall₂_map_right_iff.mpr (List.forall₂_same.mpr fun row hrow => ?_)
    rw [Plan.keys_record hdistinct (hfits row hrow), Plan.values_record hdistinct (hfits row hrow)]
    exact ⟨hkeys, rfl⟩
  · rw [← hkeys, Dict.keys, Plan.entries_labels hdistinct, List.map_map]
    rfl
  · rw [Dict.values, Plan.entries_labels hdistinct, List.map_map]
    refine (map_eq_of_forall₂ (fun entry s h => ?_) hselections).symm
    obtain ⟨hkey, hlabel⟩ := h
    show _ = s.labelFor e.stripIdSuffix
    rw [labelFor_eq, hkey, hlabel]

namespace Staff

/-- The names along the line of superiors, one of them under a label of its own. -/
def line : Draft where
  table := " person "
  fields := .ofList [("boss.boss.name", none), ("name", some "Who"), ("boss_name", none)]

/-- Cy, who is under somebody who is under Ada. -/
def lineOfCy : NativeRow := [.text "Ada", .text "Cy", .null]

/-- An engine that answers every plan with the same rows. -/
def engine (rows : List NativeRow) : Engine Unit where
  catalog := catalog
  executor _ := .ok rows

/-- Three names end alike, and none takes the place of another. -/
theorem interpreted_of_draft_line :
    ∃ spec result, line.validate = .ok spec ∧ (engine [lineOfCy]).run spec = .ok result ∧
      result.data.map Dict.keys = [["boss.boss.name", "name", "boss_name"]] ∧
      result.data.map Dict.values = [lineOfCy] ∧
      result.labels.keys = ["boss.boss.name", "name", "boss_name"] ∧
      result.labels.values = ["Name", "Who", "Boss name"] := by
  obtain ⟨spec, hd, p, hp⟩ : ∃ spec, line.validate = .ok spec ∧ ∃ p, catalog.plan spec = .ok p :=
    ⟨_, rfl, _, rfl⟩
  have hwidth : ∀ row ∈ [lineOfCy], row.length = line.fields.size := by
    intro row hrow
    rw [List.mem_singleton.mp hrow]
    rfl
  obtain ⟨result, hrun, hdata, hkeys, hvalues⟩ := interpreted_of_draft (engine [lineOfCy]) hd hp rfl hwidth
  refine ⟨spec, result, hd, hrun, ?_, ?_, hkeys, hvalues.trans ?_⟩
  · exact (map_eq_of_forall₂ (fun native _ h => h.1.symm) hdata).symm
  · exact (map_eq_of_forall₂ (fun native _ h => h.2.symm) hdata).symm.trans (List.map_id _)
  · decide +kernel

end Staff

end DottedQuery
