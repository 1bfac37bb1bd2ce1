/-
# DottedQuery.Proofs.Spec.Written -- which of the written conditions a specification keeps

Under `filter` a document has entries, an entry has paths, a path has operators, and an operator has an
operand. Each of these conditions should become a filter. The entries are a list and keep all their
conditions apart, but the paths of one entry and the operators of one path are read into dictionaries,
which are written over where a key is repeated, before it is checked that there is one path and at
least one operator.

What comes of it is told by `Node.kept`: of an entry the conditions under the last path, and of those
with one operator the last, in the place of the first. `enforced_of_text` says that a specification has
these conditions and no others, and that as many filters as conditions are there exactly if no entry
writes over any. In `condition_lost` one is.
-/
import DottedQuery.Proofs.Document.Decoders
import DottedQuery.Proofs.Pairing
import DottedQuery.Proofs.Spec.Checking

namespace DottedQuery

open Document (Format Node)

/-! ## Written conditions -/

/-- A condition as a document has it. -/
structure Written where
  path : Node
  operator : Node
  operand : Node

/-- The text that the operator goes by in a dictionary. -/
def Written.operatorText (w : Written) : String := w.operator.text?.getD ""

/-- A filter says what is written. -/
structure Written.Yields (format : Format) (w : Written) (filter : FilterSpec) : Prop where
  path_eq : w.path.text? = some filter.path.key
  operator_eq : w.operator.text? = some filter.operator.name
  operand_eq : Document.value format w.operand = .ok filter.operand

namespace Document

/-- The conditions that are written under a path. -/
def conditionsOf (member : Node × Node) : List Written :=
  member.2.members.map fun condition => ⟨member.1, condition.1, condition.2⟩

/-- The entries under `filter`. -/
def filterEntries (d : Document) : List Node :=
  (((d.root.fields ["table", "fields", "filter"]).lookup "filter").map Node.items).getD []

namespace Node

/-- All conditions that are written in an entry. -/
def written (entry : Node) : List Written := entry.members.flatMap conditionsOf

/-- Conditions under the texts of their operators, written over where an operator is repeated. -/
def byOperator (conditions : List Written) : Dict Written :=
  .ofList (conditions.map fun w => (w.operatorText, w))

/-- The conditions of an entry that are kept: those under the last path, and of those with one operator
the last, in the place of the first. -/
def kept (entry : Node) : List Written :=
  match entry.members.getLast? with
  | none => []
  | some member => (byOperator (conditionsOf member)).values

/-- In an entry nothing is written over: there are conditions under the last path only, and there no
operator is repeated. -/
structure KeepsAll (entry : Node) : Prop where
  earlier : ∀ member ∈ entry.members.dropLast, conditionsOf member = []
  operators : ∀ member ∈ entry.members,
    ((conditionsOf member).map (·.operatorText)).Nodup

variable {entry : Node} {earlier : List (Node × Node)} {member : Node × Node}

theorem written_concat (h : entry.members = earlier ++ [member]) :
    entry.written = earlier.flatMap conditionsOf ++ conditionsOf member := by
  rw [written, h, List.flatMap_append, List.flatMap_singleton]

theorem kept_concat (h : entry.members = earlier ++ [member]) :
    entry.kept = (byOperator (conditionsOf member)).values := by
  rw [kept, h, List.getLast?_concat]

/-- An entry that writes over nothing has distinct operators under its last path and no conditions
elsewhere. -/
theorem keepsAll_concat (h : entry.members = earlier ++ [member]) : KeepsAll entry ↔
    (∀ other ∈ earlier, conditionsOf other = []) ∧
      ((conditionsOf member).map (·.operatorText)).Nodup := by
  constructor
  · rintro ⟨hearlier, hoperators⟩
    rw [h, List.dropLast_concat] at hearlier
    rw [h] at hoperators
    exact ⟨hearlier, hoperators member (List.mem_append_right _ (List.mem_singleton_self _))⟩
  · rintro ⟨hearlier, hoperators⟩
    refine ⟨?_, ?_⟩
    · rw [h, List.dropLast_concat]
      exact hearlier
    · intro other hother
      rw [h, List.mem_append, List.mem_singleton] at hother
      rcases hother with hother | rfl
      · rw [hearlier other hother]
        exact .nil
      · exact hoperators

/-! ## Kept conditions -/

theorem mem_of_mem_byOperator {conditions : List Written} {w : Written}
    (h : w ∈ (byOperator conditions).values) : w ∈ conditions := by
  obtain ⟨entry, hentry, rfl⟩ := List.mem_map.mp h
  obtain ⟨w, hw, rfl⟩ := List.mem_map.mp (Dict.mem_of_mem_ofList hentry)
  exact hw

theorem length_byOperator_le (conditions : List Written) :
    (byOperator conditions).values.length ≤ conditions.length := by
  have hle := Dict.length_ofList_le (conditions.map fun w => (w.operatorText, w))
  rw [List.length_map] at hle
  rw [Dict.values, List.length_map]
  exact hle

theorem length_byOperator_eq_iff {conditions : List Written} :
    (byOperator conditions).values.length = conditions.length ↔
      (conditions.map (·.operatorText)).Nodup := by
  have hlength : (conditions.map fun w => (w.operatorText, w)).length = conditions.length :=
    List.length_map _
  rw [Dict.values, List.length_map, ← hlength, byOperator, Dict.length_ofList_eq_iff, List.map_map]
  rfl

theorem byOperator_eq {conditions : List Written}
    (h : (conditions.map (·.operatorText)).Nodup) :
    (byOperator conditions).values = conditions := by
  have hentries : (byOperator conditions).entries =
      conditions.map fun w => (w.operatorText, w) := by
    refine Dict.entries_ofList ?_
    rw [List.map_map]
    exact h
  rw [Dict.values, hentries, List.map_map]
  exact List.map_id conditions

/-- What is kept is written. -/
theorem mem_written_of_mem_kept {w : Written} (h : w ∈ entry.kept) : w ∈ entry.written := by
  rcases List.eq_nil_or_concat' entry.members with hnil | ⟨earlier, member, hmembers⟩
  · rw [kept, hnil] at h
    exact absurd h List.not_mem_nil
  · rw [kept_concat hmembers] at h
    rw [written_concat hmembers]
    exact List.mem_append_right _ (mem_of_mem_byOperator h)

/-- No more is kept than is written. -/
theorem length_kept_le (entry : Node) : entry.kept.length ≤ entry.written.length := by
  rcases List.eq_nil_or_concat' entry.members with hnil | ⟨earlier, member, hmembers⟩
  · rw [kept, hnil]
    exact Nat.zero_le _
  · rw [kept_concat hmembers, written_concat hmembers, List.length_append]
    have hle := length_byOperator_le (conditionsOf member)
    omega

/-- As much is kept as is written exactly if nothing is written over. -/
theorem length_kept_eq_iff : entry.kept.length = entry.written.length ↔ KeepsAll entry := by
  rcases List.eq_nil_or_concat' entry.members with hnil | ⟨earlier, member, hmembers⟩
  · rw [kept, written, hnil]
    refine iff_of_true rfl ⟨?_, ?_⟩
    · rw [hnil]
      exact fun member hmember => absurd hmember List.not_mem_nil
    · rw [hnil]
      exact fun member hmember => absurd hmember List.not_mem_nil
  · rw [kept_concat hmembers, written_concat hmembers, List.length_append, keepsAll_concat hmembers,
      ← length_byOperator_eq_iff, ← List.flatMap_eq_nil_iff, ← List.length_eq_zero_iff]
    have hle := length_byOperator_le (conditionsOf member)
    -- both summands are at most what they should be, so neither may fall short
    omega

/-- If nothing is written over, everything is kept. -/
theorem KeepsAll.kept_eq (h : KeepsAll entry) : entry.kept = entry.written := by
  rcases List.eq_nil_or_concat' entry.members with hnil | ⟨earlier, member, hmembers⟩
  · rw [kept, written, hnil]
    rfl
  · obtain ⟨hearlier, hoperators⟩ := (keepsAll_concat hmembers).mp h
    rw [kept_concat hmembers, written_concat hmembers, List.flatMap_eq_nil_iff.mpr hearlier,
      byOperator_eq hoperators, List.nil_append]

end Node

end Document

/-! ## Filters of an entry -/

variable {format : Format} {item : Node} {entry : Dict (Dict Value)} {filter : FilterSpec}
  {filters : List FilterSpec}

/-- What a condition is read as, in a dictionary of operators. -/
structure Written.Reads (format : Format) (path : Node) (operator : String) (w : Written)
    (operand : Value) : Prop where
  path_eq : w.path = path
  operator_eq : w.operator.text? = some operator
  operand_eq : Document.value format w.operand = .ok operand

/-- The conditions under a path are written over in the same way whether they are taken as nodes or as
what these are read as. -/
theorem reads_of_dict {member : Node × Node} {conditions : Dict Value}
    (h : Document.dict Document.value format member.2 = .ok conditions) :
    List.Forall₂ (fun x y => x.1 = y.1 ∧ Written.Reads format member.1 y.1 x.2 y.2)
      (Node.byOperator (Document.conditionsOf member)).entries conditions.entries := by
  obtain ⟨entries, hentries, rfl⟩ := Document.dict_eq_ok h
  refine Dict.forall₂_ofList ?_
  rw [List.forall₂_map_left_iff, Document.conditionsOf, List.forall₂_map_left_iff]
  refine hentries.imp fun condition entry h => ?_
  obtain ⟨htext, hvalue⟩ := h
  refine ⟨?_, rfl, htext, hvalue⟩
  rw [Written.operatorText, htext, Option.getD_some]

/-- The last path of an entry, where the others were the same, and what is read under it. -/
theorem exists_last_of_filterEntry {key : String} {conditions : Dict Value}
    (hread : Draft.filterEntry format item = .ok entry)
    (hentry : entry.entries = [(key, conditions)]) (hne : conditions.entries ≠ []) :
    ∃ earlier member, item.members = earlier ++ [member] ∧ member.1.text? = some key ∧
      Document.dict Document.value format member.2 = .ok conditions := by
  obtain ⟨paths, hpaths, hread⟩ := bind_eq_ok.mp hread
  cases hread
  obtain ⟨entries, hentries, rfl⟩ := Document.dict_eq_ok hpaths
  -- what is left under the key is what was written under it last
  obtain ⟨⟨key', slot⟩, hone, hlast⟩ := List.map_eq_singleton_iff.mp hentry
  cases hlast
  obtain ⟨earlier, rfl⟩ := Dict.exists_concat_of_ofList hone
  obtain ⟨before, member, hmembers, -, hkey, hslot⟩ := exists_concat_of_forall₂ hentries.flip
  rcases Document.optional_eq_ok hslot with ⟨rfl, -⟩ | ⟨conditions, rfl, hconditions⟩
  · exact absurd rfl hne
  · exact ⟨before, member, hmembers, hkey, hconditions⟩

/-- The filters that an entry becomes say what the conditions say that are kept of it. -/
theorem yields_of_entry {index : Nat} (hread : Draft.filterEntry format item = .ok entry)
    (h : Draft.entry index entry = .ok filters) :
    List.Forall₂ (Written.Yields format) item.kept filters := by
  rw [Draft.entry] at h
  split at h
  · rename_i key conditions hentry
    obtain ⟨path, hpath, h⟩ := bind_eq_ok.mp h
    split at h
    · cases h
    rename_i hne
    rw [List.isEmpty_iff] at hne
    -- there is one path in the dictionary, but there may have been several members with it
    obtain ⟨earlier, member, hmembers, hkey, hconditions⟩ :=
      exists_last_of_filterEntry hread hentry hne
    have hpathKey : path.key = key := FieldPath.key_of_parse (mapError_succeeds.mp hpath)
    rw [Node.kept_concat hmembers, Dict.values, List.forall₂_map_left_iff]
    refine forall₂_trans ?_ (reads_of_dict hconditions) (mapM_eq_ok.mp h)
    rintro ⟨operator, w⟩ condition filter ⟨-, hreads⟩ hfilter
    obtain ⟨hfilterPath, hoperator, hoperand⟩ := Draft.condition_eq_ok_iff.mp hfilter
    constructor
    · rw [hreads.path_eq, hkey, hfilterPath, hpathKey]
    · rw [hreads.operator_eq, hoperator]
    · rw [hreads.operand_eq, hoperand]
  · cases h

/-- The entries become filters one after the other, whatever the numbers are by which faults would
tell them. -/
theorem yields_of_filtersFrom {index : Nat} {items : List Node} {entries : List (Dict (Dict Value))}
    (hread : List.Forall₂ (fun item entry => Draft.filterEntry format item = .ok entry) items entries)
    (h : Draft.filtersFrom index entries = .ok filters) :
    List.Forall₂ (Written.Yields format) (items.flatMap Node.kept) filters := by
  induction hread generalizing index filters with
  | nil =>
    cases h
    exact .nil
  | @cons item entry items entries hentry _ ih =>
    obtain ⟨first, hfirst, h⟩ := bind_eq_ok.mp h
    obtain ⟨rest, hrest, h⟩ := bind_eq_ok.mp h
    cases h
    rw [List.flatMap_cons]
    exact List.rel_append (yields_of_entry hentry hfirst) (ih hrest)

/-! ## Specifications -/

variable (format) in
/-- Of the slots that fields are filled into, that of the filters has what the field of this name was
read as. -/
theorem slot_of_fields {step : Draft.Slots → String × Node → Except Document.Error Draft.Slots}
    (hfilter : ∀ node slots slots', step slots ("filter", node) = .ok slots' →
      Document.optional (Document.list Draft.filterEntry) format node = .ok slots'.filter)
    (hother : ∀ name node slots slots', name = "table" ∨ name = "fields" →
      step slots (name, node) = .ok slots' → slots'.filter = slots.filter)
    {fields : List (String × Node)} (hdistinct : (fields.map (·.1)).Nodup)
    (hknown : ∀ field ∈ fields, field.1 ∈ ["table", "fields", "filter"]) {start slots : Draft.Slots}
    (h : fields.foldlM step start = .ok slots) :
    (fields.lookup "filter" = none ∧ slots.filter = start.filter) ∨
      ∃ node, fields.lookup "filter" = some node ∧
        Document.optional (Document.list Draft.filterEntry) format node = .ok slots.filter := by
  induction fields generalizing start with
  | nil =>
    cases h
    exact Or.inl ⟨rfl, rfl⟩
  | cons field fields ih =>
    obtain ⟨name, node⟩ := field
    rw [List.foldlM_cons] at h
    obtain ⟨next, hnext, h⟩ := bind_eq_ok.mp h
    obtain ⟨hfresh, hdistinct⟩ := List.nodup_cons.mp hdistinct
    obtain ⟨hname, hknown⟩ := List.forall_mem_cons.mp hknown
    have hrest := ih hdistinct hknown h
    by_cases hhere : name = "filter"
    · -- no later field has this name, so the slot stays as it is
      subst hhere
      rcases hrest with ⟨-, hslot⟩ | ⟨later, hlater, -⟩
      · rw [hslot]
        exact Or.inr ⟨node, List.lookup_cons_self, hfilter node start next hnext⟩
      · obtain ⟨earlier, rest, rfl, -⟩ := List.lookup_eq_some_iff.mp hlater
        exact absurd (by simp) hfresh
    · have hlookup : List.lookup "filter" ((name, node) :: fields) = fields.lookup "filter" := by
        have hbeq : ("filter" == name) = false := beq_false_of_ne fun h => hhere h.symm
        rw [List.lookup_cons, hbeq]
      have hslot : next.filter = start.filter := by
        refine hother name node start next ?_ hnext
        simpa [hhere] using hname
      rw [hlookup, ← hslot]
      exact hrest

/-- What the entries under `filter` are read as. -/
theorem filterEntries_of_decode {root : Node} {draft : Draft}
    (h : Draft.decode format root = .ok draft) :
    List.Forall₂ (fun item entry => Draft.filterEntry format item = .ok entry)
      (((root.fields ["table", "fields", "filter"]).lookup "filter").map Node.items |>.getD [])
      draft.filter := by
  obtain ⟨filling, hfilling, h⟩ := bind_eq_ok.mp h
  obtain ⟨table, -, h⟩ := bind_eq_ok.mp h
  cases h
  obtain ⟨hdistinct, hknown, hfold⟩ := Document.struct_eq_ok (by decide) hfilling
  have hslot := slot_of_fields format ?_ ?_ hdistinct hknown hfold
  · rcases hslot with ⟨hnone, hslot⟩ | ⟨node, hnode, hslot⟩
    · rw [hnone, hslot]
      exact .nil
    · rw [hnode]
      rcases Document.optional_eq_ok hslot with ⟨hslot, hmissing⟩ | ⟨entries, hslot, hentries⟩
      · rw [hslot]
        show List.Forall₂ _ node.items []
        rw [(Document.parts_of_isMissing hmissing).1]
        exact .nil
      · rw [hslot]
        exact Document.list_eq_ok hentries
  · intro node slots slots' hstep
    obtain ⟨slot, hslot, hstep⟩ := bind_eq_ok.mp hstep
    cases hstep
    exact hslot
  · rintro name node slots slots' (rfl | rfl) hstep
    · obtain ⟨slot, -, hstep⟩ := bind_eq_ok.mp hstep
      cases hstep
      rfl
    · obtain ⟨slot, -, hstep⟩ := bind_eq_ok.mp hstep
      cases hstep
      rfl

/-- What a specification makes of the conditions of its document. -/
structure Enforced (d : Document) (spec : QuerySpec) : Prop where
  /-- The filters say what the kept conditions say. -/
  kept : List.Forall₂ (Written.Yields d.format) (d.filterEntries.flatMap Node.kept) spec.filters
  /-- Every filter is written. -/
  sound : ∀ filter ∈ spec.filters, ∃ w ∈ d.filterEntries.flatMap Node.written,
    w.Yields d.format filter
  /-- There are as many filters as conditions exactly if no entry writes over any. -/
  length_eq_iff : spec.filters.length = (d.filterEntries.flatMap Node.written).length ↔
    ∀ entry ∈ d.filterEntries, entry.KeepsAll
  /-- If no entry writes over any, each condition becomes a filter. -/
  complete : (∀ entry ∈ d.filterEntries, entry.KeepsAll) →
    List.Forall₂ (Written.Yields d.format) (d.filterEntries.flatMap Node.written) spec.filters

/-- Over a list of entries, as much is kept as is written if this is so of each of them. -/
theorem length_flatMap_kept_eq_iff {items : List Node} :
    (items.flatMap Node.kept).length = (items.flatMap Node.written).length ↔
      ∀ item ∈ items, item.KeepsAll := by
  -- no entry can make up for what another one lost
  have hle (items : List Node) :
      (items.flatMap Node.kept).length ≤ (items.flatMap Node.written).length := by
    induction items with
    | nil => exact Nat.le_refl _
    | cons item items ih =>
      have hitem := item.length_kept_le
      rw [List.flatMap_cons, List.flatMap_cons, List.length_append, List.length_append]
      omega
  induction items with
  | nil => exact iff_of_true rfl fun item hitem => absurd hitem List.not_mem_nil
  | cons item items ih =>
    have hitem := item.length_kept_le
    have hitems := hle items
    have hboth : (∀ other ∈ item :: items, other.KeepsAll) ↔
        item.kept.length = item.written.length ∧
          (items.flatMap Node.kept).length = (items.flatMap Node.written).length :=
      List.forall_mem_cons.trans (and_congr Node.length_kept_eq_iff.symm ih.symm)
    rw [hboth, List.flatMap_cons, List.flatMap_cons, List.length_append, List.length_append]
    omega

theorem flatMap_kept_eq {items : List Node} (h : ∀ item ∈ items, item.KeepsAll) :
    items.flatMap Node.kept = items.flatMap Node.written := by
  induction items with
  | nil => rfl
  | cons item items ih =>
    obtain ⟨hitem, hitems⟩ := List.forall_mem_cons.mp h
    rw [List.flatMap_cons, List.flatMap_cons, hitem.kept_eq, ih hitems]

/-- The specification that is read out of a document. -/
theorem enforced_of_document {d : Document} {spec : QuerySpec}
    (h : QuerySpec.ofDocument d = .ok spec) : Enforced d spec := by
  obtain ⟨draft, hdraft, hspec⟩ := bind_eq_ok.mp h
  obtain ⟨draft', hdecode, hoverrun⟩ := bind_eq_ok.mp (mapError_succeeds.mp hdraft)
  have hspec := mapError_succeeds.mp hspec
  -- nothing is left over after the document, and what was decoded is what is checked
  split at hoverrun
  · cases hoverrun
  cases hoverrun
  obtain ⟨filters, hfilters, hspecFilters⟩ : ∃ filters,
      Draft.filtersFrom 0 draft.filter = .ok filters ∧ spec.filters = filters := by
    rw [Draft.validate] at hspec
    split at hspec
    · cases hspec
    obtain ⟨fields, -, hspec⟩ := bind_eq_ok.mp hspec
    obtain ⟨filters, hfilters, hspec⟩ := bind_eq_ok.mp hspec
    cases hspec
    exact ⟨filters, hfilters, rfl⟩
  subst hspecFilters
  have hkept : List.Forall₂ (Written.Yields d.format) (d.filterEntries.flatMap Node.kept) spec.filters :=
    yields_of_filtersFrom (filterEntries_of_decode hdecode) hfilters
  refine ⟨hkept, ?_, ?_, ?_⟩
  · intro filter hfilter
    obtain ⟨w, hw, hyields⟩ := exists_partner hkept hfilter
    obtain ⟨item, hitem, hw⟩ := List.mem_flatMap.mp hw
    exact ⟨w, List.mem_flatMap.mpr ⟨item, hitem, Node.mem_written_of_mem_kept hw⟩, hyields⟩
  · rw [← hkept.length_eq]
    exact length_flatMap_kept_eq_iff
  · intro hkeeps
    rw [← flatMap_kept_eq hkeeps]
    exact hkept

/-- A text in JSON or YAML that is accepted has its conditions enforced as far as no entry writes over
them. -/
theorem enforced_of_text (text : String) :
    (∀ spec, QuerySpec.ofJson text = .ok spec → Enforced (Document.Json.read text) spec) ∧
      ∀ spec, QuerySpec.ofYaml text = .ok spec → Enforced (Document.Yaml.read text) spec :=
  ⟨fun _ => enforced_of_document, fun _ => enforced_of_document⟩

/-- Two conditions under one path and one under another. -/
def threeConditions : String :=
  "table: t\nfilter:\n- a:\n    exactly: 1\n    not: 2\n- a.b:\n    exactly: x\n"

/-- Operators and paths that are repeated in other places do not write over each other. -/
theorem enforced_of_text_threeConditions : ∃ spec, QuerySpec.ofYaml threeConditions = .ok spec ∧
    spec.filters.length = 3 ∧ List.Forall₂ (Written.Yields (Document.Yaml.read threeConditions).format)
      ((Document.Yaml.read threeConditions).filterEntries.flatMap Node.written) spec.filters := by
  have hspec : (QuerySpec.ofYaml threeConditions).toOption.map (·.filters.length) = some 3 := by
    decide +kernel
  have hwritten : ((Document.Yaml.read threeConditions).filterEntries.flatMap Node.written).length =
      3 := by
    decide +kernel
  cases h : QuerySpec.ofYaml threeConditions with
  | error cause =>
    rw [h] at hspec
    cases hspec
  | ok spec =>
    rw [h] at hspec
    have hlength : spec.filters.length = 3 := Option.some.inj hspec
    have henforced := (enforced_of_text threeConditions).2 spec h
    exact ⟨spec, rfl, hlength,
      henforced.complete (henforced.length_eq_iff.mp (hlength.trans hwritten.symm))⟩

/-- One operator with two operands. -/
def twoOperands : String :=
  "\x7b\"table\": \"t\", \"filter\": [\x7b\"a\": \x7b\"exactly\": 1, \"exactly\": 2\x7d\x7d]\x7d"

/-- A condition is lost where its operator is written again. -/
theorem condition_lost : ∃ spec, QuerySpec.ofJson twoOperands = .ok spec ∧
    ((Document.Json.read twoOperands).filterEntries.flatMap Node.written).length = 2 ∧
    spec.filters.length = 1 := by
  have hspec : (QuerySpec.ofJson twoOperands).toOption.map (·.filters.length) = some 1 := by
    decide +kernel
  cases h : QuerySpec.ofJson twoOperands with
  | error cause =>
    rw [h] at hspec
    cases hspec
  | ok spec =>
    rw [h] at hspec
    exact ⟨spec, rfl, by decide +kernel, Option.some.inj hspec⟩

end DottedQuery
