/-
# DottedQuery.Proofs.Dictionaries -- dictionaries written entry by entry

Rows, labels and the mappings of a document are dictionaries that are written one entry after the
other. What comes of a list of entries is told by two equations: each key stands where it was first
written (`keys_ofList`), and has the value that was written under it last (`get?_ofList`). If the keys
are distinct, it is the list itself (`entries_ofList`), and only then are there as many entries as were
written (`length_ofList_eq_iff`).
-/
import DottedQuery.Dict
import Mathlib.Data.List.Dedup
import Mathlib.Data.List.Induction

namespace DottedQuery

variable {κ α β : Type} [DecidableEq κ]

/-! ## Writing one entry -/

theorem putEntry_of_not_mem {key : κ} {value : α} {entries : List (κ × α)}
    (h : key ∉ entries.map (·.1)) : putEntry key value entries = entries ++ [(key, value)] := by
  induction entries with
  | nil => rfl
  | cons entry rest ih =>
    rw [List.map_cons, List.mem_cons, not_or] at h
    rw [putEntry, if_neg fun same => h.1 same.symm, ih h.2, List.cons_append]

theorem mem_putEntry (key : String) (value : α) (entries : List (String × α)) :
    (key, value) ∈ putEntry key value entries := by
  induction entries with
  | nil => exact List.mem_singleton_self _
  | cons first rest ih =>
    rw [putEntry]
    split
    · exact List.mem_cons_self
    · exact List.mem_cons_of_mem _ ih

/-- Writing related values under one key into related entries. -/
theorem forall₂_putEntry {R : String → α → β → Prop} {key : String} {a : α} {b : β}
    (hab : R key a b) {xs : List (String × α)} {ys : List (String × β)}
    (h : List.Forall₂ (fun x y => x.1 = y.1 ∧ R y.1 x.2 y.2) xs ys) :
    List.Forall₂ (fun x y => x.1 = y.1 ∧ R y.1 x.2 y.2) (putEntry key a xs) (putEntry key b ys) := by
  induction h with
  | nil => exact .cons ⟨rfl, hab⟩ .nil
  | @cons x y xs ys hxy hrest ih =>
    rw [putEntry, putEntry, hxy.1]
    split
    · exact .cons ⟨rfl, hab⟩ hrest
    · exact .cons hxy ih

/-! ## Reading -/

theorem valueAt?_mem {key : κ} {value : α} {entries : List (κ × α)}
    (h : valueAt? key entries = some value) : (key, value) ∈ entries := by
  obtain ⟨entry, hentry, rfl⟩ := Option.map_eq_some_iff.mp h
  have hkey := List.find?_some hentry
  rw [← of_decide_eq_true hkey]
  exact List.mem_of_find?_eq_some hentry

/-- With distinct keys, every entry is found under its own. -/
theorem valueAt?_of_mem {entries : List (κ × α)} (hdistinct : (entries.map (·.1)).Nodup)
    {entry : κ × α} (h : entry ∈ entries) : valueAt? entry.1 entries = some entry.2 := by
  obtain ⟨before, after, rfl⟩ := List.append_of_mem h
  have hfirst : ∀ other ∈ before, other.1 ≠ entry.1 := by
    intro other hother
    rw [List.map_append, List.nodup_append] at hdistinct
    exact hdistinct.2.2 _ (List.mem_map_of_mem hother) _ List.mem_cons_self
  have hskip : before.find? (·.1 = entry.1) = none := by
    rw [List.find?_eq_none]
    intro other hother
    simpa using hfirst other hother
  rw [valueAt?, List.find?_append, hskip]
  simp

/-- With distinct keys, what is found under a key is its entry. -/
theorem valueAt?_eq_some_iff {entries : List (κ × α)} (hdistinct : (entries.map (·.1)).Nodup) {key : κ}
    {value : α} : valueAt? key entries = some value ↔ (key, value) ∈ entries :=
  ⟨valueAt?_mem, fun h => valueAt?_of_mem hdistinct h⟩

/-- Nothing is found under what is no key. -/
theorem valueAt?_eq_none_iff {entries : List (κ × α)} {key : κ} :
    valueAt? key entries = none ↔ key ∉ entries.map (·.1) := by
  rw [valueAt?, Option.map_eq_none_iff, List.find?_eq_none, List.mem_map]
  simp only [decide_eq_true_eq, not_exists, not_and]

namespace Dict

/-- Every entry is found under its key. -/
theorem get?_of_mem {d : Dict α} {entry : String × α} (h : entry ∈ d.entries) :
    d.get? entry.1 = some entry.2 := valueAt?_of_mem d.distinct h

/-- What is found is an entry. -/
theorem get?_eq_some_iff {d : Dict α} {key : String} {value : α} :
    d.get? key = some value ↔ (key, value) ∈ d.entries := valueAt?_eq_some_iff d.distinct

/-- What is found under a name bears the name, if all values do. -/
theorem KeyedBy.name_eq {name : α → String} {d : Dict α} (h : d.KeyedBy name) {key : String}
    {value : α} (hvalue : d.get? key = some value) : name value = key :=
  h (key, value) (get?_eq_some_iff.mp hvalue)

/-- Something is found exactly under the keys. -/
theorem exists_get?_iff {d : Dict α} {key : String} :
    (∃ value, d.get? key = some value) ↔ key ∈ d.keys := by
  simp only [get?_eq_some_iff, keys, List.mem_map, Prod.exists, exists_and_right, exists_eq_right]

/-- A dictionary is determined by its keys in order and the values under them. -/
theorem eq_of_get? {d e : Dict α} (hkeys : d.keys = e.keys)
    (hvalues : ∀ key, d.get? key = e.get? key) : d = e := by
  -- the entries can be read off the keys and the look-ups alone
  have hread (d : Dict α) : d.entries.map (fun entry => (entry.1, some entry.2)) =
      d.keys.map fun key => (key, d.get? key) := by
    rw [keys, List.map_map]
    refine List.map_congr_left fun entry hentry => ?_
    rw [Function.comp_apply, get?_of_mem hentry]
  have hinjective : Function.Injective fun entry : String × α => (entry.1, some entry.2) := by
    rintro ⟨key, value⟩ ⟨key', value'⟩ h
    simpa using h
  refine ext (hinjective.list_map ?_)
  show d.entries.map _ = e.entries.map _
  rw [hread, hread, hkeys]
  exact List.map_congr_left fun key _ => by rw [hvalues]

/-! ## Writing a list of entries -/

/-- The last entry of a list is written into what comes of those before it. -/
theorem ofList_concat (entries : List (String × α)) (entry : String × α) :
    ofList (entries ++ [entry]) = (ofList entries).insert entry.1 entry.2 :=
  List.foldl_concat _ _ _ _

/-- A key stands where it was first written. -/
theorem keys_ofList (entries : List (String × α)) :
    (ofList entries).keys = (entries.map (·.1)).eraseDups := by
  induction entries using List.reverseRecOn with
  | nil => rfl
  | append_singleton entries entry ih =>
    rw [ofList_concat, keys_insert, ih, List.map_append, List.eraseDups_append]
    -- a key that was written before is neither added here nor left there
    by_cases h : entry.1 ∈ entries.map (·.1)
    · simp [List.removeAll, h]
    · simp [List.removeAll, h, List.eraseDups_cons]

/-- A key has the value that was written under it last. -/
theorem get?_ofList (entries : List (String × α)) (key : String) :
    (ofList entries).get? key = ((entries.filter (·.1 = key)).getLast?).map (·.2) := by
  induction entries using List.reverseRecOn with
  | nil => rfl
  | append_singleton entries entry ih =>
    rw [ofList_concat, get?_insert, ih, List.filter_append]
    by_cases h : key = entry.1
    · simp [h]
    · have h' : entry.1 ≠ key := fun same => h same.symm
      simp [h, h']

/-- Nothing happens to entries with distinct keys. -/
theorem entries_ofList {entries : List (String × α)} (h : (entries.map (·.1)).Nodup) :
    (ofList entries).entries = entries := by
  induction entries using List.reverseRecOn with
  | nil => rfl
  | append_singleton entries entry ih =>
    rw [List.map_append, List.nodup_append] at h
    obtain ⟨hentries, -, hfresh⟩ := h
    have hnew : entry.1 ∉ entries.map (·.1) := by
      intro hmem
      exact hfresh _ hmem _ (List.mem_singleton_self _) rfl
    rw [ofList_concat]
    show putEntry entry.1 entry.2 (ofList entries).entries = _
    rw [ih hentries, putEntry_of_not_mem hnew]

/-- Of related entries come related dictionaries. -/
theorem forall₂_ofList {R : String → α → β → Prop} {xs : List (String × α)}
    {ys : List (String × β)} (h : List.Forall₂ (fun x y => x.1 = y.1 ∧ R y.1 x.2 y.2) xs ys) :
    List.Forall₂ (fun x y => x.1 = y.1 ∧ R y.1 x.2 y.2) (ofList xs).entries (ofList ys).entries := by
  -- the induction goes through the writes, so it has to be about any dictionaries to start from
  suffices hfold : ∀ (d : Dict α) (e : Dict β),
      List.Forall₂ (fun x y => x.1 = y.1 ∧ R y.1 x.2 y.2) d.entries e.entries →
        List.Forall₂ (fun x y => x.1 = y.1 ∧ R y.1 x.2 y.2)
          (xs.foldl (fun d entry => d.insert entry.1 entry.2) d).entries
          (ys.foldl (fun e entry => e.insert entry.1 entry.2) e).entries from
    hfold empty empty .nil
  induction h with
  | nil => exact fun d e hde => hde
  | @cons x y xs ys hxy _ ih =>
    intro d e hde
    refine ih (d.insert x.1 x.2) (e.insert y.1 y.2) ?_
    rw [hxy.1]
    exact forall₂_putEntry hxy.2 hde

/-- No entry is there that was not written. -/
theorem mem_of_mem_ofList {entries : List (String × α)} {entry : String × α}
    (h : entry ∈ (ofList entries).entries) : entry ∈ entries := by
  induction entries using List.reverseRecOn with
  | nil => exact absurd h List.not_mem_nil
  | append_singleton entries last ih =>
    rw [ofList_concat] at h
    rcases mem_of_mem_putEntry h with rfl | h
    · exact List.mem_append_right _ (List.mem_singleton_self _)
    · exact List.mem_append_left _ (ih h)

/-- If one entry is left, it is the last that was written. -/
theorem exists_concat_of_ofList {entries : List (String × α)} {entry : String × α}
    (h : (ofList entries).entries = [entry]) : ∃ earlier, entries = earlier ++ [entry] := by
  rcases List.eq_nil_or_concat' entries with rfl | ⟨earlier, last, rfl⟩
  · cases h
  · rw [ofList_concat] at h
    have hlast : last ∈ [entry] := h ▸ mem_putEntry last.1 last.2 (ofList earlier).entries
    rw [List.mem_singleton.mp hlast]
    exact ⟨earlier, rfl⟩

/-- As many entries are left as there are different keys. -/
theorem length_ofList (entries : List (String × α)) :
    (ofList entries).entries.length = (entries.map (·.1)).dedup.length := by
  have hkeys : (ofList entries).keys.Perm (entries.map (·.1)).dedup := by
    refine (List.perm_ext_iff_of_nodup (nodup_keys _) (List.nodup_dedup _)).mpr fun key => ?_
    rw [keys_ofList, List.mem_eraseDups, List.mem_dedup]
  rw [← hkeys.length_eq, keys, List.length_map]

theorem length_ofList_le (entries : List (String × α)) :
    (ofList entries).entries.length ≤ entries.length := by
  have hlength : (entries.map (·.1)).length = entries.length := List.length_map _
  rw [length_ofList, ← hlength]
  exact (List.dedup_sublist _).length_le

/-- All entries are left exactly if their keys are distinct. -/
theorem length_ofList_eq_iff {entries : List (String × α)} :
    (ofList entries).entries.length = entries.length ↔ (entries.map (·.1)).Nodup := by
  have hlength : (entries.map (·.1)).length = entries.length := List.length_map _
  rw [length_ofList, ← hlength, ← List.dedup_eq_self]
  constructor
  · exact (List.dedup_sublist _).eq_of_length
  · exact congrArg List.length

end Dict

end DottedQuery
