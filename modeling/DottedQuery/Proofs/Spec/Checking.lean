/-
# DottedQuery.Proofs.Spec.Checking -- which drafts are specifications, and what is wrong with others

A draft says a table, fields and filter entries. `Contents` has this as lists, in the order of the
document, and in them a level that a document leaves out is empty (`Sketch.contents`): fields or filters that
are null, options without a label, a path without conditions.

It is a specification if its table is not blank, its paths are dotted texts of identifiers, and each
filter entry has one path with at least one operator and with none that is unknown (`Valid`). Otherwise
`FirstFlaw` says what is wrong with it in the first place: the table, then the fields in their order, then
the filter entries in theirs, and of an entry how many paths it has, then the path, then that there is
no operator, then the first unknown one. Neither speaks of the checks. Checking succeeds in the one case,
with a query that says what the draft says (`Describes`), and fails in the other with the flaw that comes
first (`validate_outcome`).
-/
import DottedQuery.Proofs.Spec.PathGrammar
import DottedQuery.Proofs.Spec.Sketch
import Mathlib.Data.List.Forall2
import Mathlib.Data.List.TakeWhile

namespace DottedQuery

namespace Draft

/-! ## What a draft says -/

/-- A path of a filter entry, and under it operators with their operands. -/
abbrev Group := String × List (String × Value)

/-- What a draft says, in the order of the document. -/
structure Contents where
  table : String
  /-- Texts of paths, with labels. -/
  fields : List (String × Option String)
  /-- Filter entries. -/
  entries : List (List Group)

/-- A path, an operator and an operand for each condition of a filter entry. -/
def conditionsOf (entry : List Group) : List (String × String × Value) :=
  entry.flatMap fun group => group.2.map (group.1, ·)

/-- The conditions of all filter entries. -/
def Contents.conditions (k : Contents) : List (String × String × Value) :=
  k.entries.flatMap conditionsOf

/-- The paths of a filter entry, with what is under them. -/
def groupsOf (entry : Dict (Dict Value)) : List Group :=
  entry.entries.map fun group => (group.1, group.2.entries)

def contents (d : Draft) : Contents where
  table := d.table
  fields := d.fields.entries
  entries := d.filter.map groupsOf

namespace Sketch

/-- What a sketch says. -/
def contents (s : Sketch) : Contents where
  table := s.table
  fields :=
    match s.fields with
    | none => []
    | some fields => fields.entries.map fun field =>
      match field.2 with
      | none => (field.1, none)
      | some label => (field.1, label)
  entries :=
    match s.filter with
    | none => []
    | some entries => entries.map fun entry => entry.entries.map fun group =>
      match group.2 with
      | none => (group.1, [])
      | some conditions => (group.1, conditions.entries)

/-- The draft of a sketch says what the sketch says. -/
theorem contents_draft (s : Sketch) : s.draft.contents = s.contents := by
  obtain ⟨table, fields, filter⟩ := s
  have hfields : (Sketch.draft ⟨table, fields, filter⟩).fields.entries =
      (Sketch.contents ⟨table, fields, filter⟩).fields := by
    cases fields with
    | none => rfl
    | some fields =>
      refine List.map_congr_left fun field _ => ?_
      obtain ⟨path, options⟩ := field
      cases options <;> rfl
  have hentries : (Sketch.draft ⟨table, fields, filter⟩).filter.map groupsOf =
      (Sketch.contents ⟨table, fields, filter⟩).entries := by
    cases filter with
    | none => rfl
    | some entries =>
      refine (List.map_map ..).trans (List.map_congr_left fun entry _ => ?_)
      refine (List.map_map ..).trans (List.map_congr_left fun group _ => ?_)
      obtain ⟨path, conditions⟩ := group
      cases conditions <;> rfl
  rw [Draft.contents, hfields, hentries]
  rfl

end Sketch

/-! ## Specifications -/

/-- A text is a path. -/
def IsPath (s : String) : Prop := ∃ parts, FieldPath.Dotted parts s.toList

/-- A name is the name of an operator. -/
def Known (name : String) : Prop := ∃ operator : Operator, operator.name = name

/-- One text is another one without white space at its ends. -/
def Trimmed (s trimmed : String) : Prop := ∃ before after, s.toList = before ++ trimmed.toList ++ after ∧
  (∀ c ∈ before ++ after, Text.isBlank c = true) ∧
  (∀ c ∈ trimmed.toList.head?, Text.isBlank c = false) ∧
  ∀ c ∈ trimmed.toList.getLast?, Text.isBlank c = false

/-- A filter entry has one path, with operators under it, and all of these are known. -/
inductive Sound : List Group → Prop
  | intro {path : String} {conditions : List (String × Value)} (hpath : IsPath path)
      (hne : conditions ≠ []) (hknown : ∀ condition ∈ conditions, Known condition.1) :
      Sound [(path, conditions)]

/-- A filter says what a condition says. -/
def Says (condition : String × String × Value) (filter : FilterSpec) : Prop :=
  filter.path.Spells condition.1 ∧ filter.operator.name = condition.2.1 ∧ filter.operand = condition.2.2

namespace Contents

/-- The table is not blank, the fields are paths and the filter entries are sound. -/
structure Valid (k : Contents) : Prop where
  table : ∃ c ∈ k.table.toList, Text.isBlank c = false
  fields : ∀ field ∈ k.fields, IsPath field.1
  entries : ∀ entry ∈ k.entries, Sound entry

/-- A query says what a draft says: it has the table without white space at its ends, and a field for
each field and a filter for each condition, in their order. -/
structure Describes (k : Contents) (spec : QuerySpec) : Prop where
  table : Trimmed k.table spec.table
  fields : List.Forall₂ (fun entry (field : FieldSpec) =>
    field.path.Spells entry.1 ∧ field.label = entry.2) k.fields spec.fields
  filters : List.Forall₂ Says k.conditions spec.filters

end Contents

/-- What is wrong with the filter entry at a position: how many paths it has, or else its path, or else
that it has no operator, or else the first operator that is unknown. -/
inductive Flaw (index : Nat) : List Group → DraftError → Prop
  | paths {entry : List Group} (hlength : entry.length ≠ 1) :
      Flaw index entry (.entryPaths index entry.length)
  | path {path bad : String} {conditions : List (String × Value)}
      (hbad : FieldPath.FirstFault path.toList bad.toList) :
      Flaw index [(path, conditions)] (.invalidPath ⟨path, bad⟩)
  | noOperator {path : String} (hpath : IsPath path) : Flaw index [(path, [])] (.noOperator path)
  | operator {path name : String} {operand : Value} {earlier later : List (String × Value)}
      (hpath : IsPath path) (hearlier : ∀ condition ∈ earlier, Known condition.1)
      (hunknown : ¬Known name) :
      Flaw index [(path, earlier ++ (name, operand) :: later)] (.unsupportedOperator path name)

/-- What is wrong with a draft in the first place: with its table, or else with the first field that is no
path, or else with the first filter entry that is not sound. -/
inductive FirstFlaw (k : Contents) : DraftError → Prop
  | table (hblank : ∀ c ∈ k.table.toList, Text.isBlank c = true) : FirstFlaw k .emptyTable
  | field {before after : List (String × Option String)} {path bad : String} {label : Option String}
      (htable : ∃ c ∈ k.table.toList, Text.isBlank c = false)
      (hsplit : k.fields = before ++ (path, label) :: after)
      (hbefore : ∀ field ∈ before, IsPath field.1)
      (hbad : FieldPath.FirstFault path.toList bad.toList) : FirstFlaw k (.invalidPath ⟨path, bad⟩)
  | entry {before after : List (List Group)} {entry : List Group} {fault : DraftError}
      (htable : ∃ c ∈ k.table.toList, Text.isBlank c = false)
      (hfields : ∀ field ∈ k.fields, IsPath field.1)
      (hsplit : k.entries = before ++ entry :: after) (hbefore : ∀ entry ∈ before, Sound entry)
      (hflaw : Flaw before.length entry fault) : FirstFlaw k fault

variable {d : Draft} {spec : QuerySpec} {k : Contents} {fault : DraftError} {s trimmed name : String}
  {path : FieldPath} {index : Nat} {filters : List FilterSpec}

/-! ## The table -/

/-- Trimming takes white space away at the ends, and all of it. -/
theorem trimmed_trimBlanks (s : String) : Trimmed s (Text.trimBlanks s) := by
  obtain ⟨after, hback, hafter⟩ : ∃ after, s.toList.dropWhile Text.isBlank =
      (Text.trimBlanks s).toList ++ after ∧ ∀ c ∈ after, Text.isBlank c = true := by
    refine ⟨((s.toList.dropWhile Text.isBlank).reverse.takeWhile Text.isBlank).reverse, ?_, ?_⟩
    · rw [Text.trimBlanks, String.toList_ofList, Text.trimEnds, ← List.reverse_append,
        List.takeWhile_append_dropWhile, List.reverse_reverse]
    · exact fun c hc => List.mem_takeWhile_imp (List.mem_reverse.mp hc)
  refine ⟨s.toList.takeWhile Text.isBlank, after, ?_, ?_, ?_, ?_⟩
  · rw [List.append_assoc, ← hback, List.takeWhile_append_dropWhile]
  · intro c hc
    rcases List.mem_append.mp hc with hc | hc
    · exact List.mem_takeWhile_imp hc
    · exact hafter c hc
  · intro c hc
    -- what is trimmed begins as the text does after its white space
    have hhead := List.head?_dropWhile_not Text.isBlank s.toList
    rw [hback, List.head?_append, Option.mem_def.mp hc] at hhead
    exact hhead
  · intro c hc
    have hlast := List.head?_dropWhile_not Text.isBlank (s.toList.dropWhile Text.isBlank).reverse
    rw [Text.trimBlanks, String.toList_ofList, Text.trimEnds, List.getLast?_reverse,
      Option.mem_def] at hc
    rw [hc] at hlast
    exact hlast

theorem Trimmed.eq_empty_iff (h : Trimmed s trimmed) :
    trimmed = "" ↔ ∀ c ∈ s.toList, Text.isBlank c = true := by
  obtain ⟨before, after, hsplit, hblank, hhead, -⟩ := h
  rw [hsplit, ← String.toList_eq_nil_iff]
  constructor
  · intro hnil
    rw [hnil, List.append_nil]
    exact hblank
  · intro hall
    cases htrimmed : trimmed.toList with
    | nil => rfl
    | cons c rest =>
      have hmem : c ∈ before ++ trimmed.toList ++ after := by simp [htrimmed]
      have hvisible := hhead c (by simp [htrimmed])
      rw [hall c hmem] at hvisible
      cases hvisible

theorem trimBlanks_eq_empty_iff :
    (Text.trimBlanks s).isEmpty = true ↔ ∀ c ∈ s.toList, Text.isBlank c = true := by
  rw [String.isEmpty_iff, (trimmed_trimBlanks s).eq_empty_iff]

/-! ## Paths and operators -/

theorem isPath_iff : IsPath s ↔ ∃ path : FieldPath, path.Spells s := by
  rw [IsPath, ← FieldPath.exists_parse_iff]
  constructor
  · rintro ⟨path, hpath⟩
    exact ⟨path, FieldPath.spells_of_parse hpath⟩
  · rintro ⟨path, hpath⟩
    exact ⟨path, FieldPath.parse_eq_ok_iff.mpr hpath.dotted⟩

theorem path_eq_ok_iff : Draft.path s = .ok path ↔ path.Spells s := by
  rw [Draft.path, mapError_succeeds]
  exact ⟨FieldPath.spells_of_parse, fun h => FieldPath.parse_eq_ok_iff.mpr h.dotted⟩

theorem path_eq_error_iff : Draft.path s = .error fault ↔
    ∃ bad : String, FieldPath.FirstFault s.toList bad.toList ∧ fault = .invalidPath ⟨s, bad⟩ := by
  simp only [Draft.path, mapError_eq_error, FieldPath.parse_eq_error_iff]
  constructor
  · rintro ⟨⟨_, bad⟩, ⟨rfl, hbad⟩, rfl⟩
    exact ⟨bad, hbad, rfl⟩
  · rintro ⟨bad, hbad, rfl⟩
    exact ⟨⟨s, bad⟩, ⟨rfl, hbad⟩, rfl⟩

theorem ofName?_eq_some_iff {operator : Operator} :
    Operator.ofName? name = some operator ↔ operator.name = name := by
  constructor
  · intro h
    have hname := List.find?_some h
    exact of_decide_eq_true hname
  · rintro rfl
    cases operator <;> rfl

theorem ofName?_eq_none_iff : Operator.ofName? name = none ↔ ¬Known name := by
  rw [Known, Option.eq_none_iff_forall_ne_some, not_exists]
  simp only [ne_eq, ofName?_eq_some_iff]

/-! ## Fields -/

theorem field_eq_ok_iff {entry : String × Option String} {field : FieldSpec} :
    Draft.field entry = .ok field ↔ field.path.Spells entry.1 ∧ field.label = entry.2 := by
  rw [Draft.field, bind_eq_ok]
  simp only [path_eq_ok_iff]
  constructor
  · rintro ⟨path, hpath, h⟩
    cases h
    exact ⟨hpath, rfl⟩
  · rintro ⟨hpath, hlabel⟩
    refine ⟨field.path, hpath, ?_⟩
    rw [← hlabel]
    rfl

theorem field_eq_error_iff {entry : String × Option String} : Draft.field entry = .error fault ↔
    ∃ bad : String, FieldPath.FirstFault entry.1.toList bad.toList ∧ fault = .invalidPath ⟨entry.1, bad⟩ := by
  rw [Draft.field, bind_eq_error, path_eq_error_iff]
  exact or_iff_left fun ⟨_, _, h⟩ => pure_ne_error h

theorem exists_field_iff {entry : String × Option String} :
    (∃ field, Draft.field entry = .ok field) ↔ IsPath entry.1 := by
  rw [isPath_iff]
  constructor
  · rintro ⟨field, hfield⟩
    exact ⟨field.path, (field_eq_ok_iff.mp hfield).1⟩
  · rintro ⟨path, hpath⟩
    exact ⟨⟨path, entry.2⟩, field_eq_ok_iff.mpr ⟨hpath, rfl⟩⟩

/-! ## Filter entries -/

theorem condition_eq_ok_iff {condition : String × Value} {filter : FilterSpec} :
    Draft.condition s path condition = .ok filter ↔
      filter.path = path ∧ filter.operator.name = condition.1 ∧ filter.operand = condition.2 := by
  rw [Draft.condition]
  cases hname : Operator.ofName? condition.1 with
  | none =>
    refine iff_of_false nofun ?_
    rintro ⟨-, hknown, -⟩
    exact ofName?_eq_none_iff.mp hname ⟨_, hknown⟩
  | some operator =>
    rw [Except.ok.injEq]
    constructor
    · rintro rfl
      exact ⟨rfl, ofName?_eq_some_iff.mp hname, rfl⟩
    · rintro ⟨rfl, hoperator, hoperand⟩
      rw [ofName?_eq_some_iff.mpr hoperator, Option.some.injEq] at hname
      rw [← hname, ← hoperand]

theorem condition_eq_error_iff {condition : String × Value} :
    Draft.condition s path condition = .error fault ↔
      ¬Known condition.1 ∧ fault = .unsupportedOperator s condition.1 := by
  rw [Draft.condition, ← ofName?_eq_none_iff]
  cases Operator.ofName? condition.1 with
  | none =>
    rw [Except.error.injEq]
    exact eq_comm.trans (and_iff_right rfl).symm
  | some operator => exact iff_of_false nofun nofun

theorem exists_condition_iff {condition : String × Value} :
    (∃ filter, Draft.condition s path condition = .ok filter) ↔ Known condition.1 := by
  constructor
  · rintro ⟨filter, h⟩
    exact ⟨filter.operator, (condition_eq_ok_iff.mp h).2.1⟩
  · rintro ⟨operator, hname⟩
    exact ⟨⟨path, operator, condition.2⟩, condition_eq_ok_iff.mpr ⟨rfl, hname, rfl⟩⟩

/-- The check of a path of a filter entry and what is under it. -/
def group (key : String) (conditions : List (String × Value)) :
    Except DraftError (List FilterSpec) := do
  let path ← Draft.path key
  if conditions.isEmpty then .error (.noOperator key) else conditions.mapM (Draft.condition key path)

theorem entry_of_single {entry : Dict (Dict Value)} {conditions : Dict Value}
    (h : entry.entries = [(s, conditions)]) : Draft.entry index entry = group s conditions.entries := by
  rw [Draft.entry, h]
  rfl

theorem entry_of_length_ne {entry : Dict (Dict Value)} (h : (groupsOf entry).length ≠ 1) :
    Draft.entry index entry = .error (.entryPaths index (groupsOf entry).length) := by
  have hlength : (groupsOf entry).length = entry.entries.length := List.length_map _
  rw [hlength] at h ⊢
  unfold Draft.entry
  split
  · rename_i hsingle
    rw [hsingle] at h
    exact absurd rfl h
  · rfl

section

variable {conditions : List (String × Value)}

theorem group_eq_ok_iff : group s conditions = .ok filters ↔ conditions ≠ [] ∧
    ∃ path : FieldPath, path.Spells s ∧ List.Forall₂ (fun condition (filter : FilterSpec) =>
      filter.path = path ∧ filter.operator.name = condition.1 ∧ filter.operand = condition.2)
      conditions filters := by
  simp only [group, bind_eq_ok, path_eq_ok_iff]
  by_cases hempty : conditions = []
  · subst hempty
    exact iff_of_false (fun ⟨_, _, h⟩ => nomatch h) fun h => h.1 rfl
  · have hnone : conditions.isEmpty ≠ true := fun h => hempty (List.isEmpty_iff.mp h)
    simp only [if_neg hnone, mapM_eq_ok, condition_eq_ok_iff]
    exact (and_iff_right hempty).symm

theorem group_eq_error_iff : group s conditions = .error fault ↔ Flaw index [(s, conditions)] fault := by
  simp only [group, bind_eq_error, path_eq_error_iff, path_eq_ok_iff]
  constructor
  · rintro (⟨bad, hbad, rfl⟩ | ⟨path, hpath, h⟩)
    · exact .path hbad
    have hpath : IsPath s := isPath_iff.mpr ⟨path, hpath⟩
    split at h
    · rename_i hempty
      cases h
      rw [List.isEmpty_iff.mp hempty]
      exact .noOperator hpath
    · obtain ⟨earlier, ⟨name, operand⟩, later, rfl, hearlier, hfirst⟩ := mapM_eq_error.mp h
      obtain ⟨hunknown, rfl⟩ := condition_eq_error_iff.mp hfirst
      exact .operator hpath (fun condition hmem => exists_condition_iff.mp (hearlier condition hmem)) hunknown
  · intro hflaw
    cases hflaw with
    | paths hlength => exact absurd rfl hlength
    | path hbad => exact Or.inl ⟨_, hbad, rfl⟩
    | noOperator hpath =>
      obtain ⟨path, hpath⟩ := isPath_iff.mp hpath
      exact Or.inr ⟨path, hpath, rfl⟩
    | operator hpath hearlier hunknown =>
      obtain ⟨path, hpath⟩ := isPath_iff.mp hpath
      refine Or.inr ⟨path, hpath, ?_⟩
      rw [if_neg (by simp)]
      exact mapM_eq_error.mpr ⟨_, _, _, rfl,
        fun condition hmem => exists_condition_iff.mpr (hearlier condition hmem),
        condition_eq_error_iff.mpr ⟨hunknown, rfl⟩⟩

theorem sound_single_iff : Sound [(s, conditions)] ↔
    IsPath s ∧ conditions ≠ [] ∧ ∀ condition ∈ conditions, Known condition.1 := by
  constructor
  · rintro ⟨hpath, hne, hknown⟩
    exact ⟨hpath, hne, hknown⟩
  · rintro ⟨hpath, hne, hknown⟩
    exact .intro hpath hne hknown

theorem exists_group_iff : (∃ filters, group s conditions = .ok filters) ↔ Sound [(s, conditions)] := by
  have hall (path : FieldPath) : (∃ filters, conditions.mapM (Draft.condition s path) = .ok filters) ↔
      ∀ condition ∈ conditions, Known condition.1 := by
    rw [exists_mapM_eq_ok]
    exact forall₂_congr fun condition _ => exists_condition_iff
  simp only [mapM_eq_ok, condition_eq_ok_iff] at hall
  rw [sound_single_iff, isPath_iff]
  simp only [group_eq_ok_iff]
  constructor
  · rintro ⟨filters, hne, path, hpath, hfilters⟩
    exact ⟨⟨path, hpath⟩, hne, (hall path).mp ⟨filters, hfilters⟩⟩
  · rintro ⟨⟨path, hpath⟩, hne, hknown⟩
    obtain ⟨filters, hfilters⟩ := (hall path).mpr hknown
    exact ⟨filters, hne, path, hpath, hfilters⟩

end

/-- A filter entry is checked by its only path and what is under it, or it has some other number of
paths. -/
theorem entry_cases (entry : Dict (Dict Value)) :
    (∃ key conditions, groupsOf entry = [(key, conditions)] ∧
      ∀ index, Draft.entry index entry = group key conditions) ∨
    (groupsOf entry).length ≠ 1 := by
  by_cases hlength : (groupsOf entry).length = 1
  · have hentries : entry.entries.length = 1 := (List.length_map _).symm.trans hlength
    obtain ⟨⟨key, conditions⟩, hsingle⟩ := List.length_eq_one_iff.mp hentries
    refine Or.inl ⟨key, conditions.entries, ?_, fun index => entry_of_single hsingle⟩
    rw [groupsOf, hsingle]
    rfl
  · exact Or.inr hlength

variable {entry : Dict (Dict Value)}

theorem exists_entry_iff (index : Nat) :
    (∃ filters, Draft.entry index entry = .ok filters) ↔ Sound (groupsOf entry) := by
  rcases entry_cases entry with ⟨key, conditions, hgroups, hentry⟩ | hlength
  · rw [hgroups, hentry]
    exact exists_group_iff
  · rw [entry_of_length_ne hlength]
    refine iff_of_false (fun ⟨_, h⟩ => nomatch h) fun hsound => ?_
    generalize groupsOf entry = groups at hlength hsound
    cases hsound
    exact hlength rfl

theorem entry_eq_error_iff :
    Draft.entry index entry = .error fault ↔ Flaw index (groupsOf entry) fault := by
  rcases entry_cases entry with ⟨key, conditions, hgroups, hentry⟩ | hlength
  · rw [hgroups, hentry]
    exact group_eq_error_iff
  · rw [entry_of_length_ne hlength, Except.error.injEq]
    constructor
    · rintro rfl
      exact .paths hlength
    · intro hflaw
      generalize groupsOf entry = groups at hlength hflaw
      cases hflaw with
      | paths _ => rfl
      | path _ | noOperator _ | operator _ _ _ => exact absurd rfl hlength

theorem says_of_entry (h : Draft.entry index entry = .ok filters) :
    List.Forall₂ Says (conditionsOf (groupsOf entry)) filters := by
  rcases entry_cases entry with ⟨key, conditions, hgroups, hentry⟩ | hlength
  · rw [hentry, group_eq_ok_iff] at h
    obtain ⟨-, path, hpath, hfilters⟩ := h
    rw [hgroups, conditionsOf, List.flatMap_singleton, List.forall₂_map_left_iff]
    refine hfilters.imp ?_
    rintro condition filter ⟨rfl, hname, hoperand⟩
    exact ⟨hpath, hname, hoperand⟩
  · rw [entry_of_length_ne hlength] at h
    cases h

/-! ## All filter entries -/

section

variable {entries : List (Dict (Dict Value))}

theorem says_of_filtersFrom (h : filtersFrom index entries = .ok filters) :
    List.Forall₂ Says ((entries.map groupsOf).flatMap conditionsOf) filters := by
  induction entries generalizing index filters with
  | nil =>
    cases h
    exact .nil
  | cons entry entries ih =>
    obtain ⟨first, hfirst, h⟩ := bind_eq_ok.mp h
    obtain ⟨rest, hrest, h⟩ := bind_eq_ok.mp h
    cases h
    rw [List.map_cons, List.flatMap_cons]
    exact List.rel_append (says_of_entry hfirst) (ih hrest)

theorem exists_filtersFrom_iff :
    (∃ filters, filtersFrom index entries = .ok filters) ↔ ∀ entry ∈ entries.map groupsOf, Sound entry := by
  induction entries generalizing index with
  | nil => exact iff_of_true ⟨[], rfl⟩ fun _ h => absurd h List.not_mem_nil
  | cons entry entries ih =>
    rw [List.map_cons, List.forall_mem_cons, ← exists_entry_iff index, ← ih]
    simp only [filtersFrom, bind_eq_ok]
    constructor
    · rintro ⟨filters, first, hfirst, rest, hrest, -⟩
      exact ⟨⟨first, hfirst⟩, rest, hrest⟩
    · rintro ⟨⟨first, hfirst⟩, rest, hrest⟩
      exact ⟨first ++ rest, first, hfirst, rest, hrest, rfl⟩

/-- The check fails with what is wrong with the first entry that is not sound, under its position. -/
theorem filtersFrom_eq_error_iff : filtersFrom index entries = .error fault ↔ ∃ before entry after,
    entries.map groupsOf = before ++ entry :: after ∧ (∀ entry ∈ before, Sound entry) ∧
      Flaw (index + before.length) entry fault := by
  induction entries generalizing index with
  | nil =>
    refine iff_of_false nofun ?_
    rintro ⟨before, entry, after, hsplit, -⟩
    exact List.append_ne_nil_of_right_ne_nil before (List.cons_ne_nil entry after) hsplit.symm
  | cons first entries ih =>
    simp only [filtersFrom, bind_eq_error, pure_ne_error, and_false, exists_false, or_false, ih,
      entry_eq_error_iff, List.map_cons]
    constructor
    · rintro (hfirst | ⟨filters, hfirst, before, entry, after, hsplit, hbefore, hflaw⟩)
      · exact ⟨[], _, _, rfl, fun _ h => absurd h List.not_mem_nil, hfirst⟩
      · refine ⟨groupsOf first :: before, entry, after, ?_, ?_, ?_⟩
        · rw [hsplit, List.cons_append]
        · exact List.forall_mem_cons.mpr ⟨(exists_entry_iff _).mp ⟨filters, hfirst⟩, hbefore⟩
        · rw [List.length_cons, Nat.add_comm before.length, ← Nat.add_assoc]
          exact hflaw
    · rintro ⟨before, entry, after, hsplit, hbefore, hflaw⟩
      cases before with
      | nil =>
        obtain ⟨rfl, -⟩ := List.cons.inj hsplit
        exact Or.inl hflaw
      | cons other before =>
        obtain ⟨rfl, hrest⟩ := List.cons.inj hsplit
        obtain ⟨hfirst, hbefore⟩ := List.forall_mem_cons.mp hbefore
        obtain ⟨filters, hfilters⟩ := (exists_entry_iff _).mpr hfirst
        rw [List.length_cons, Nat.add_comm before.length, ← Nat.add_assoc] at hflaw
        exact Or.inr ⟨filters, hfilters, before, entry, after, hrest, hbefore, hflaw⟩

end

/-! ## Drafts -/

theorem validate_of_blank (h : ∀ c ∈ d.table.toList, Text.isBlank c = true) :
    d.validate = .error .emptyTable := by
  rw [validate, if_pos (trimBlanks_eq_empty_iff.mpr h)]

theorem validate_of_visible (h : ∃ c ∈ d.table.toList, Text.isBlank c = false) :
    d.validate = do
      let fields ← d.fields.entries.mapM Draft.field
      let filters ← filtersFrom 0 d.filter
      return ⟨Text.trimBlanks d.table, fields, filters⟩ := by
  obtain ⟨c, hc, hvisible⟩ := h
  have hnonempty : ¬(Text.trimBlanks d.table).isEmpty = true := by
    rw [trimBlanks_eq_empty_iff]
    intro hall
    rw [hall c hc] at hvisible
    cases hvisible
  rw [validate, if_neg hnonempty]

theorem blank_or_visible (s : String) :
    (∀ c ∈ s.toList, Text.isBlank c = true) ∨ ∃ c ∈ s.toList, Text.isBlank c = false := by
  by_cases hall : ∀ c ∈ s.toList, Text.isBlank c = true
  · exact Or.inl hall
  · simp only [not_forall] at hall
    obtain ⟨c, hc, hvisible⟩ := hall
    exact Or.inr ⟨c, hc, Bool.eq_false_iff.mpr hvisible⟩

theorem not_visible_of_blank (h : ∀ c ∈ s.toList, Text.isBlank c = true) :
    ¬∃ c ∈ s.toList, Text.isBlank c = false := by
  rintro ⟨c, hc, hvisible⟩
  rw [h c hc] at hvisible
  cases hvisible

theorem exists_validate_iff : (∃ spec, d.validate = .ok spec) ↔ d.contents.Valid := by
  rcases blank_or_visible d.table with hblank | hvisible
  · rw [validate_of_blank hblank]
    exact iff_of_false (fun ⟨_, h⟩ => nomatch h) fun hvalid => not_visible_of_blank hblank hvalid.table
  · rw [validate_of_visible hvisible]
    simp only [bind_eq_ok]
    constructor
    · rintro ⟨spec, fields, hfields, filters, hfilters, -⟩
      refine ⟨hvisible, fun field hfield => ?_, exists_filtersFrom_iff.mp ⟨filters, hfilters⟩⟩
      exact exists_field_iff.mp (exists_mapM_eq_ok.mp ⟨fields, hfields⟩ field hfield)
    · rintro ⟨-, hfields, hentries⟩
      obtain ⟨fields, hfields⟩ := exists_mapM_eq_ok.mpr fun field hfield =>
        exists_field_iff.mpr (hfields field hfield)
      obtain ⟨filters, hfilters⟩ := exists_filtersFrom_iff.mpr hentries
      exact ⟨_, fields, hfields, filters, hfilters, rfl⟩

theorem describes_of_validate (h : d.validate = .ok spec) : d.contents.Describes spec := by
  rcases blank_or_visible d.table with hblank | hvisible
  · rw [validate_of_blank hblank] at h
    cases h
  · rw [validate_of_visible hvisible] at h
    obtain ⟨fields, hfields, h⟩ := bind_eq_ok.mp h
    obtain ⟨filters, hfilters, h⟩ := bind_eq_ok.mp h
    cases h
    refine ⟨trimmed_trimBlanks d.table, ?_, says_of_filtersFrom hfilters⟩
    exact (mapM_eq_ok.mp hfields).imp fun _ _ => field_eq_ok_iff.mp

theorem validate_eq_error_iff : d.validate = .error fault ↔ FirstFlaw d.contents fault := by
  rcases blank_or_visible d.table with hblank | hvisible
  · rw [validate_of_blank hblank, Except.error.injEq]
    constructor
    · rintro rfl
      exact .table hblank
    · intro hflaw
      cases hflaw with
      | table _ => rfl
      | field htable | entry htable => exact absurd htable (not_visible_of_blank hblank)
  · rw [validate_of_visible hvisible]
    simp only [bind_eq_error, pure_ne_error, and_false, exists_false, or_false, mapM_eq_error,
      filtersFrom_eq_error_iff, exists_field_iff, field_eq_error_iff, Nat.zero_add]
    constructor
    · rintro (⟨before, ⟨path, label⟩, after, hsplit, hbefore, bad, hbad, rfl⟩ |
        ⟨fields, hfields, before, entry, after, hsplit, hbefore, hflaw⟩)
      · exact .field hvisible hsplit hbefore hbad
      · refine .entry hvisible (fun field hfield => ?_) hsplit hbefore hflaw
        exact exists_field_iff.mp (exists_mapM_eq_ok.mp ⟨fields, hfields⟩ field hfield)
    · intro hflaw
      cases hflaw with
      | table hblank => exact absurd hvisible (not_visible_of_blank hblank)
      | field _ hsplit hbefore hbad => exact Or.inl ⟨_, _, _, hsplit, hbefore, _, hbad, rfl⟩
      | entry _ hfields hsplit hbefore hflaw =>
        obtain ⟨fields, hfields⟩ := exists_mapM_eq_ok.mpr fun field hfield =>
          exists_field_iff.mpr (hfields field hfield)
        exact Or.inr ⟨fields, hfields, _, _, _, hsplit, hbefore, hflaw⟩

/-- What a document says of a specification is accepted exactly if it is valid, as a query that says the
same, and refused with what is wrong with it in the first place. Reading keeps what has been said. -/
theorem validate_outcome :
    (∀ s : Sketch, ((∃ spec, s.draft.validate = .ok spec) ↔ s.contents.Valid) ∧
      (∀ spec, s.draft.validate = .ok spec → s.contents.Describes spec) ∧
      ∀ fault, s.draft.validate = .error fault ↔ FirstFlaw s.contents fault) ∧
    ∀ format node, SameOutcome (fun sketch draft => sketch.draft = draft) (Sketch.decode format node)
      (Draft.decode format node) := by
  refine ⟨fun s => ?_, Sketch.sameOutcome_decode⟩
  rw [← s.contents_draft]
  exact ⟨exists_validate_iff, fun _ => describes_of_validate, fun _ => validate_eq_error_iff⟩

/-- Films that are rented, with a label left out, and two conditions on the length. -/
def longFilms : Sketch where
  table := " rental "
  fields := some ⟨[("film.title", some (some "Film")), ("id", none)], by decide⟩
  filter := some [
    ⟨[("film.length", some ⟨[("greater_than", .int 90), ("not", .int 120)], by decide⟩)], by decide⟩,
    ⟨[("returned", some ⟨[("null", .bool true)], by decide⟩)], by decide⟩]

/-- A table with a label for a text that is no path, and nothing under the path of a condition. -/
def misspelled : Sketch where
  table := "rental"
  fields := some ⟨[("id", none), ("film.", some none)], by decide⟩
  filter := some [⟨[("returned", none)], by decide⟩]

/-- All conditions of an entry are taken, and a field is refused before a filter is. -/
theorem validate_outcome_films :
    (∃ spec, longFilms.draft.validate = .ok spec ∧ longFilms.contents.Describes spec ∧
      spec.table = "rental" ∧ spec.filters.length = 3) ∧
    FirstFlaw misspelled.contents (.invalidPath ⟨"film.", ""⟩) := by
  obtain ⟨spec, hspec, htable, hlength⟩ : ∃ spec, longFilms.draft.validate = .ok spec ∧
      spec.table = "rental" ∧ spec.filters.length = 3 := ⟨_, rfl, rfl, rfl⟩
  have hfault : misspelled.draft.validate = .error (.invalidPath ⟨"film.", ""⟩) := rfl
  exact ⟨⟨spec, hspec, (validate_outcome.1 longFilms).2.1 spec hspec, htable, hlength⟩,
    ((validate_outcome.1 misspelled).2.2 _).mp hfault⟩

end Draft

end DottedQuery
