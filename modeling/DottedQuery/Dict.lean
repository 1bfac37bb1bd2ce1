/-
# DottedQuery.Dict -- dictionaries that keep the order of first insertion

A dictionary is a list of entries with distinct keys. Inserting under a key that is present
replaces the value where it stands; a new key goes to the end. What is read back is
described by two equations, `get?_insert` and `keys_insert`. The lemmas about entries are for
keys of any kind.
-/

namespace DottedQuery

/-! ## Entries -/

section Entries

variable {κ α : Type} [DecidableEq κ]

/-- Writes a value under a key: in place if the key is present, else at the end. -/
def putEntry (key : κ) (value : α) : List (κ × α) → List (κ × α)
  | [] => [(key, value)]
  | entry :: rest =>
    if entry.1 = key then (key, value) :: rest else entry :: putEntry key value rest

/-- The value written under a key. -/
def valueAt? (key : κ) (entries : List (κ × α)) : Option α :=
  (entries.find? (·.1 = key)).map (·.2)

/-- Writing adds the key at the end unless it is present. -/
theorem keys_putEntry (key : κ) (value : α) (entries : List (κ × α)) :
    (putEntry key value entries).map (·.1) =
      if key ∈ entries.map (·.1) then entries.map (·.1) else entries.map (·.1) ++ [key] := by
  induction entries with
  | nil => simp [putEntry]
  | cons entry rest ih =>
    by_cases same : entry.1 = key
    · simp [putEntry, same]
    · have other : key ≠ entry.1 := fun h => same h.symm
      by_cases known : key ∈ rest.map (·.1)
      · simp only [putEntry, same, if_false, List.map_cons, ih, known, if_true]
        simp [other, known]
      · simp only [putEntry, same, if_false, List.map_cons, ih, known]
        simp [other, known]

/-- Writing keeps the keys distinct. -/
theorem nodup_putEntry {key : κ} {value : α} {entries : List (κ × α)}
    (distinct : (entries.map (·.1)).Nodup) :
    ((putEntry key value entries).map (·.1)).Nodup := by
  rw [keys_putEntry]
  split
  · exact distinct
  · rename_i fresh
    refine List.nodup_append.mpr ⟨distinct, by simp, ?_⟩
    intro a known b new
    rw [List.mem_singleton] at new
    subst new
    exact fun same => fresh (same ▸ known)

/-- What is read after writing. -/
theorem valueAt?_putEntry (key other : κ) (value : α) (entries : List (κ × α)) :
    valueAt? other (putEntry key value entries) =
      if other = key then some value else valueAt? other entries := by
  induction entries with
  | nil => by_cases h : other = key <;> simp [putEntry, valueAt?, h, eq_comm]
  | cons entry rest ih =>
    unfold valueAt? at ih ⊢
    by_cases same : entry.1 = key
    · by_cases h : other = key
      · simp [putEntry, same, h]
      · have h' : key ≠ other := fun e => h e.symm
        simp [putEntry, same, h, h']
    · by_cases here : entry.1 = other
      · have h : other ≠ key := fun e => same (here.trans e)
        simp [putEntry, here, h]
      · simp only [putEntry, same, if_false, List.find?_cons, here, decide_false]
        exact ih

/-- Nothing is there after writing that was not written or there before. -/
theorem mem_of_mem_putEntry {key : κ} {value : α} {entries : List (κ × α)} {entry : κ × α}
    (h : entry ∈ putEntry key value entries) : entry = (key, value) ∨ entry ∈ entries := by
  induction entries with
  | nil => exact Or.inl (List.mem_singleton.mp h)
  | cons first rest ih =>
    rw [putEntry] at h
    split at h
    · rcases List.mem_cons.mp h with h | h
      · exact Or.inl h
      · exact Or.inr (List.mem_cons_of_mem _ h)
    · rcases List.mem_cons.mp h with h | h
      · exact Or.inr (h ▸ List.mem_cons_self)
      · exact (ih h).imp_right (List.mem_cons_of_mem _)

end Entries

/-! ## Dictionaries -/

/-- Entries with distinct keys, in the order in which the keys were first written. -/
structure Dict (α : Type) where
  entries : List (String × α)
  distinct : (entries.map (·.1)).Nodup

namespace Dict

variable {α β : Type}

/-- No entries. -/
def empty : Dict α := ⟨[], .nil⟩

instance : Inhabited (Dict α) := ⟨empty⟩

instance [Repr α] : Repr (Dict α) := ⟨fun d n => reprPrec d.entries n⟩

/-- The keys in order. -/
def keys (d : Dict α) : List String := d.entries.map (·.1)

/-- The values in order. -/
def values (d : Dict α) : List α := d.entries.map (·.2)

/-- How many keys there are. -/
def size (d : Dict α) : Nat := d.entries.length

/-- The value under a key. -/
def get? (d : Dict α) (key : String) : Option α := valueAt? key d.entries

/-- Whether the key has a value. -/
def contains (d : Dict α) (key : String) : Bool := (d.get? key).isSome

/-- Writes a value under a key. -/
def insert (d : Dict α) (key : String) (value : α) : Dict α where
  entries := putEntry key value d.entries
  distinct := nodup_putEntry d.distinct

/-- Changes every value and keeps the keys. -/
def map (f : α → β) (d : Dict α) : Dict β where
  entries := d.entries.map fun entry => (entry.1, f entry.2)
  distinct := by simpa [Function.comp_def] using d.distinct

/-- Writes the entries one after the other. -/
def ofList (entries : List (String × α)) : Dict α :=
  entries.foldl (fun d entry => d.insert entry.1 entry.2) empty

theorem ext {d e : Dict α} (same : d.entries = e.entries) : d = e := by
  cases d; cases e; simp_all

theorem get?_insert (d : Dict α) (key other : String) (value : α) :
    (d.insert key value).get? other = if other = key then some value else d.get? other :=
  valueAt?_putEntry key other value d.entries

theorem keys_insert (d : Dict α) (key : String) (value : α) :
    (d.insert key value).keys = if key ∈ d.keys then d.keys else d.keys ++ [key] :=
  keys_putEntry key value d.entries

/-- The keys of a dictionary are distinct. -/
theorem nodup_keys (d : Dict α) : d.keys.Nodup := d.distinct

/-! ## Values that bear their keys -/

/-- Every value bears the key that it is kept under. -/
def KeyedBy (name : α → String) (d : Dict α) : Prop := ∀ entry ∈ d.entries, name entry.2 = entry.1

theorem keyedBy_empty (name : α → String) : KeyedBy name empty :=
  fun _ h => absurd h List.not_mem_nil

/-- Writing a value under the name that it bears. -/
theorem KeyedBy.insert {name : α → String} {d : Dict α} (h : d.KeyedBy name) {key : String}
    {value : α} (hname : name value = key) : (d.insert key value).KeyedBy name := by
  intro entry hentry
  rcases mem_of_mem_putEntry hentry with rfl | hold
  · exact hname
  · exact h entry hold

end Dict

end DottedQuery
