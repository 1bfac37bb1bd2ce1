/-
# DottedQuery.Proofs.Document.Decoders -- what has been read where a decoder succeeds

A node has items, or members, or fields, by which decoders take it apart. Where a decoder succeeds it
has read all of them, in their order: a list has a value for each item (`list_eq_ok`), a dictionary is
written with an entry for each member (`dict_eq_ok`), and a structure is filled with all its fields, of
which none is repeated (`struct_eq_ok`). An optional value that is missing has no parts.

The difference between the last two is what a repetition comes to. A structure refuses it, a dictionary
is written twice under one key.

Decoders whose parts read the same in other words do so as well, faults included
(`sameOutcome_struct`).
-/
import DottedQuery.Document.Decode
import DottedQuery.Proofs.Dictionaries
import DottedQuery.Proofs.Success

namespace DottedQuery.Document

variable {α σ : Type} {format : Format} {node : Node}

/-! ## The parts of a node -/

namespace Node

/-- The text of a key. -/
def text? : Node → Option String
  | .scalar (.text s) | .scalar (.word _ _ s) => some s
  | _ => none

/-- The items of a list. No other node has items. -/
def items : Node → List Node
  | .list _ items => items
  | _ => []

/-- The members of a record, or of what stands for one. No other node has members. -/
def members (node : Node) : List (Node × Node) := (members? node).getD []

/-- Members under the texts of their keys. -/
def named (members : List (Node × Node)) : List (String × Node) :=
  members.filterMap fun member => member.1.text?.map (·, member.2)

/-- The fields of a structure with their nodes: under their names in a record, in their order in a
list. -/
def fields (names : List String) (node : Node) : List (String × Node) :=
  match members? node with
  | some members => named members
  | none => names.zip node.items

end Node

/-! ## Texts -/

/-- Nothing is read where something else was expected. -/
theorem unexpected_ne_ok {expected : String} {a : α} : unexpected node expected ≠ .ok a := by
  intro h
  obtain ⟨found, -, h⟩ := bind_eq_ok.mp h
  cases h

theorem textAs_eq_ok_iff {expected s : String} :
    textAs expected format node = .ok s ↔ node.text? = some s := by
  cases node with
  | scalar s =>
    cases s with
    | text t | word _ _ t => exact ⟨fun h => congrArg some (Except.ok.inj h),
        fun h => congrArg Except.ok (Option.some.inj h)⟩
    | null | bool | int | float | date => exact iff_of_false unexpected_ne_ok nofun
  | list | record | absent | broken => exact iff_of_false unexpected_ne_ok nofun

/-! ## Optional values and collections -/

/-- An optional value is missing or has been read. -/
theorem optional_eq_ok {decode : Decoder α} {slot : Option α}
    (h : optional decode format node = .ok slot) :
    (slot = none ∧ isMissing format node = .ok true) ∨
      ∃ a, slot = some a ∧ decode format node = .ok a := by
  obtain ⟨missing, hmissing, h⟩ := bind_eq_ok.mp h
  cases missing with
  | true =>
    cases h
    exact Or.inl ⟨rfl, hmissing⟩
  | false =>
    obtain ⟨a, ha, h⟩ := bind_eq_ok.mp h
    cases h
    exact Or.inr ⟨a, rfl, ha⟩

/-- What is missing has no parts. -/
theorem parts_of_isMissing (h : isMissing format node = .ok true) :
    node.items = [] ∧ node.members = [] := by
  cases node with
  | scalar s =>
    refine ⟨rfl, ?_⟩
    cases s with
    | word tag plain s =>
      -- an empty word stands for a record without members, any other for none
      show (if plain && s.isEmpty then some [] else none).getD [] = ([] : List (Node × Node))
      split <;> rfl
    | null => rfl
    | bool | int | float | text | date => cases h
  | absent => exact ⟨rfl, rfl⟩
  | list | record => cases h
  | broken => cases h

/-- A list has a value for each item. -/
theorem list_eq_ok {decode : Decoder α} {values : List α}
    (h : list decode format node = .ok values) :
    List.Forall₂ (fun item a => decode format item = .ok a) node.items values := by
  -- only a list has items, and every other node that is taken for one is empty
  have hbare (h : (if isBare node then .ok [] else unexpected node "a sequence") = .ok values) :
      values = [] := by
    split at h
    · cases h
      rfl
    · exact absurd h unexpected_ne_ok
  cases node with
  | list tag items => exact mapM_eq_ok.mp h
  | scalar | record | absent | broken =>
    rw [hbare h]
    exact .nil

/-- Writing members into a dictionary: each is read and written in turn. -/
theorem foldlM_insert_eq_ok {decode : Decoder α} {members : List (Node × Node)} {start d : Dict α}
    (h : members.foldlM (fun entries member => do
      let key ← text format member.1
      return entries.insert key (← decode format member.2)) start = .ok d) :
    ∃ entries, List.Forall₂ (fun member (entry : String × α) => member.1.text? = some entry.1 ∧
        decode format member.2 = .ok entry.2) members entries ∧
      d = entries.foldl (fun d entry => d.insert entry.1 entry.2) start := by
  induction members generalizing start with
  | nil =>
    cases h
    exact ⟨[], .nil, rfl⟩
  | cons member members ih =>
    rw [List.foldlM_cons] at h
    obtain ⟨next, hnext, h⟩ := bind_eq_ok.mp h
    obtain ⟨key, hkey, hnext⟩ := bind_eq_ok.mp hnext
    obtain ⟨a, ha, hnext⟩ := bind_eq_ok.mp hnext
    cases hnext
    obtain ⟨entries, hentries, hd⟩ := ih h
    exact ⟨(key, a) :: entries, .cons ⟨textAs_eq_ok_iff.mp hkey, ha⟩ hentries, hd⟩

/-- A dictionary is written with an entry for each member. -/
theorem dict_eq_ok {decode : Decoder α} {d : Dict α} (h : dict decode format node = .ok d) :
    ∃ entries, List.Forall₂ (fun member (entry : String × α) => member.1.text? = some entry.1 ∧
      decode format member.2 = .ok entry.2) node.members entries ∧ d = .ofList entries := by
  rw [dict] at h
  split at h
  · exact absurd h unexpected_ne_ok
  · rename_i members hmembers
    rw [Node.members, hmembers, Option.getD_some]
    exact foldlM_insert_eq_ok h

/-! ## Structures -/

section
variable {names : List String} {fill : String → Node → σ → Except Error σ}

/-- Filling a structure from members: each is one of its fields that was not met before. -/
theorem foldlM_fillMember_eq_ok {members : List (Node × Node)} {filling filled : Filling σ}
    (h : members.foldlM (fillMember names fill format) filling = .ok filled) :
    ((Node.named members).map (·.1)).Nodup ∧
      (∀ field ∈ Node.named members, field.1 ∈ names ∧ field.1 ∉ filling.seen) ∧
      (Node.named members).foldlM (fun slots field => fill field.1 field.2 slots) filling.slots =
        .ok filled.slots := by
  induction members generalizing filling with
  | nil =>
    cases h
    exact ⟨.nil, fun field hfield => absurd hfield List.not_mem_nil, rfl⟩
  | cons member members ih =>
    rw [List.foldlM_cons] at h
    obtain ⟨next, hnext, h⟩ := bind_eq_ok.mp h
    obtain ⟨name, hname, hnext⟩ := bind_eq_ok.mp hnext
    split at hnext
    · cases hnext
    rename_i hknown
    split at hnext
    · cases hnext
    rename_i hseen
    obtain ⟨slots, hslots, hnext⟩ := bind_eq_ok.mp hnext
    cases hnext
    obtain ⟨hdistinct, hothers, hfold⟩ := ih h
    have htext : member.1.text?.map (·, member.2) = some (name, member.2) := by
      rw [textAs_eq_ok_iff.mp hname, Option.map_some]
    have hnamed : Node.named (member :: members) = (name, member.2) :: Node.named members :=
      List.filterMap_cons_some htext
    -- the later ones have met this field as well, so none of them is it
    have hfresh : name ∉ (Node.named members).map (·.1) := by
      intro hmem
      obtain ⟨field, hfield, rfl⟩ := List.mem_map.mp hmem
      exact (hothers field hfield).2 List.mem_cons_self
    rw [hnamed]
    refine ⟨List.nodup_cons.mpr ⟨hfresh, hdistinct⟩, ?_, ?_⟩
    · rw [List.forall_mem_cons]
      refine ⟨⟨by simpa using hknown, by simpa using hseen⟩, fun field hfield => ?_⟩
      obtain ⟨hmem, hunseen⟩ := hothers field hfield
      exact ⟨hmem, fun h => hunseen (List.mem_cons_of_mem _ h)⟩
    · rw [List.foldlM_cons]
      exact bind_eq_ok.mpr ⟨slots, hslots, hfold⟩

/-- A structure is filled with its fields in the order in which they are written. There are no others, and
none of them is written twice. -/
theorem struct_eq_ok {name : String} {start : σ} {filling : Filling σ} (hnames : names.Nodup)
    (h : struct name names start fill format node = .ok filling) :
    ((node.fields names).map (·.1)).Nodup ∧ (∀ field ∈ node.fields names, field.1 ∈ names) ∧
      (node.fields names).foldlM (fun slots field => fill field.1 field.2 slots) start =
        .ok filling.slots := by
  unfold struct at h
  split at h
  · rename_i members hmembers
    obtain ⟨hdistinct, hknown, hfold⟩ := foldlM_fillMember_eq_ok h
    rw [Node.fields, hmembers]
    exact ⟨hdistinct, fun field hfield => (hknown field hfield).1, hfold⟩
  · exact absurd h unexpected_ne_ok
  · rename_i tag items _ hmembers
    obtain ⟨slots, hslots, h⟩ := bind_eq_ok.mp h
    split at h
    · cases h
    cases h
    rw [Node.fields, hmembers]
    -- a list that is too short, or in some formats too long, names the fields as far as it goes
    refine ⟨?_, fun field hfield => (List.of_mem_zip hfield).1, hslots⟩
    show ((names.zip items).map (·.1)).Nodup
    rw [List.zip_eq_zip_take_min, List.map_fst_zip (by rw [List.length_take, List.length_take]; omega)]
    exact hnames.sublist (List.take_sublist _ _)
  · exact absurd h unexpected_ne_ok

end

/-! ## Decoders that read the same in other words -/

section
variable {β τ : Type}

theorem sameOutcome_unexpected {R : α → β → Prop} {expected : String} :
    SameOutcome R (unexpected node expected) (unexpected node expected) := by
  unfold unexpected
  cases foundAt node with
  | error fault => exact .error fault
  | ok found => exact .error _

theorem sameOutcome_optional {R : α → β → Prop} {decode : Decoder α} {decode' : Decoder β}
    (h : SameOutcome R (decode format node) (decode' format node)) :
    SameOutcome (Option.Rel R) (optional decode format node) (optional decode' format node) := by
  refine (SameOutcome.refl (R := Eq) (fun _ => rfl) (isMissing format node)).bind ?_
  rintro missing _ rfl
  cases missing with
  | true => exact .ok .none
  | false => exact h.bind fun a b hab => .ok (.some hab)

theorem sameOutcome_list {R : α → β → Prop} {decode : Decoder α} {decode' : Decoder β}
    (h : ∀ item, SameOutcome R (decode format item) (decode' format item)) :
    SameOutcome (List.Forall₂ R) (list decode format node) (list decode' format node) := by
  have hbare : SameOutcome (List.Forall₂ R)
      (if isBare node then .ok [] else unexpected node "a sequence")
      (if isBare node then .ok [] else unexpected node "a sequence") := by
    split
    · exact .ok .nil
    · exact sameOutcome_unexpected
  cases node with
  | list tag items => exact .mapM h items
  | scalar | record | absent | broken => exact hbare

/-- Two fillings of a structure have met the same fields, and their slots belong together. -/
structure SameFilling (R : σ → τ → Prop) (filling : Filling σ) (filling' : Filling τ) : Prop where
  slots : R filling.slots filling'.slots
  seen : filling.seen = filling'.seen
  listed : filling.listed = filling'.listed

variable {R : σ → τ → Prop} {names : List String} {fill : String → Node → σ → Except Error σ}
  {fill' : String → Node → τ → Except Error τ}

theorem sameOutcome_fillMember
    (hfill : ∀ name node s t, R s t → SameOutcome R (fill name node s) (fill' name node t))
    {filling : Filling σ} {filling' : Filling τ} (h : SameFilling R filling filling')
    (member : Node × Node) : SameOutcome (SameFilling R) (fillMember names fill format filling member)
      (fillMember names fill' format filling' member) := by
  refine (SameOutcome.refl (R := Eq) (fun _ => rfl) (textAs _ format member.1)).bind ?_
  rintro name _ rfl
  rw [h.seen]
  split
  · exact .error _
  split
  · exact .error _
  exact (hfill name member.2 _ _ h.slots).bind fun s t hst => .ok ⟨hst, rfl, h.listed⟩

/-- Two structures are read alike if their fields are. -/
theorem sameOutcome_struct
    (hfill : ∀ name node s t, R s t → SameOutcome R (fill name node s) (fill' name node t))
    {name : String} {start : σ} {start' : τ} (hstart : R start start') :
    SameOutcome (SameFilling R) (struct name names start fill format node)
      (struct name names start' fill' format node) := by
  unfold struct
  split
  · refine .foldlM (fun _ _ member h => sameOutcome_fillMember hfill h member) ?_ _
    exact ⟨hstart, rfl, rfl⟩
  · exact sameOutcome_unexpected
  · refine (SameOutcome.foldlM (R := R) (fun _ _ field h => hfill field.1 field.2 _ _ h) hstart _).bind ?_
    intro s t hst
    split
    · exact .error _
    · exact .ok ⟨hst, rfl, rfl⟩
  · exact sameOutcome_unexpected

end

end DottedQuery.Document
