/-
# DottedQuery.Proofs.Pairing -- lists that correspond entry by entry

Plans, statements and rows are lists made from lists, one entry from each. That the entries belong
together is said by `List.Forall₂`; this module has the ways of making and taking apart such pairs of
lists that are used throughout.
-/
import Mathlib.Data.List.Forall2

namespace DottedQuery

variable {α β γ δ : Type} {R : α → β → Prop}

/-- Composes what relates a list to a second one and this one to a third, where the second and the
third are put together entry by entry. -/
theorem forall₂_zipWith {S : β → γ → Prop} {T : α → δ → Prop} {f : β → γ → δ}
    (hT : ∀ a b d, R a b → S b d → T a (f b d)) {as : List α} {bs : List β} {ds : List γ}
    (hR : List.Forall₂ R as bs) (hS : List.Forall₂ S bs ds) :
    List.Forall₂ T as (bs.zipWith f ds) := by
  induction hR generalizing ds with
  | nil =>
    cases hS with
    | nil => exact .nil
  | cons hab _ ih =>
    cases hS with
    | cons hbd hS => exact .cons (hT _ _ _ hab hbd) (ih hS)

/-- Composes two pairings. -/
theorem forall₂_trans {S : β → γ → Prop} {T : α → γ → Prop} (hT : ∀ a b d, R a b → S b d → T a d)
    {as : List α} {bs : List β} {ds : List γ} (hR : List.Forall₂ R as bs) (hS : List.Forall₂ S bs ds) :
    List.Forall₂ T as ds := by
  induction hR generalizing ds with
  | nil =>
    cases hS with
    | nil => exact .nil
  | cons hab _ ih =>
    cases hS with
    | cons hbd hS => exact .cons (hT _ _ _ hab hbd) (ih hS)

/-- Relates what two paired lists are paired with. -/
theorem forall₂_square {S : α → γ → Prop} {T : β → δ → Prop} {U : γ → δ → Prop}
    (hU : ∀ a b c d, R a b → S a c → T b d → U c d) {as : List α} {bs : List β} {cs : List γ}
    {ds : List δ} (hR : List.Forall₂ R as bs) (hS : List.Forall₂ S as cs) (hT : List.Forall₂ T bs ds) :
    List.Forall₂ U cs ds := by
  induction hR generalizing cs ds with
  | nil =>
    cases hS with
    | nil =>
      cases hT with
      | nil => exact .nil
  | cons hab _ ih =>
    cases hS with
    | cons hac hS =>
      cases hT with
      | cons hbd hT => exact .cons (hU _ _ _ _ hab hac hbd) (ih hS hT)

/-- What holds of an entry whenever it holds of its partner holds of all or of none on both sides. -/
theorem forall_mem_iff_of_forall₂ {P : α → Prop} {Q : β → Prop} (hPQ : ∀ a b, R a b → (P a ↔ Q b))
    {as : List α} {bs : List β} (h : List.Forall₂ R as bs) : (∀ a ∈ as, P a) ↔ ∀ b ∈ bs, Q b := by
  induction h with
  | nil => simp only [List.not_mem_nil, false_implies, implies_true]
  | cons hab _ ih => rw [List.forall_mem_cons, List.forall_mem_cons, hPQ _ _ hab, ih]

/-- A filter that keeps every entry pairs the entries with what they become. -/
theorem forall₂_filterMap {f : α → Option β} {as : List α} (h : ∀ a ∈ as, ∃ b, f a = some b ∧ R a b) :
    List.Forall₂ R as (as.filterMap f) := by
  induction as with
  | nil => exact .nil
  | cons a as ih =>
    obtain ⟨⟨b, hb, hab⟩, hrest⟩ := List.forall_mem_cons.mp h
    rw [List.filterMap_cons_some hb]
    exact .cons hab (ih hrest)

/-- Where the second list is cut at an entry, the first one is cut at the entry's partner. -/
theorem forall₂_split {as : List α} {earlier later : List β} {b : β}
    (h : List.Forall₂ R as (earlier ++ b :: later)) :
    ∃ before a after, as = before ++ a :: after ∧ List.Forall₂ R before earlier ∧ R a b := by
  induction earlier generalizing as with
  | nil =>
    cases h with
    | cons hab _ => exact ⟨[], _, _, rfl, .nil, hab⟩
  | cons b' earlier ih =>
    cases h with
    | @cons a' _ _ _ hab' hrest =>
      obtain ⟨before, a, after, rfl, hbefore, hab⟩ := ih hrest
      exact ⟨a' :: before, a, after, rfl, .cons hab' hbefore, hab⟩

/-- Where the first list ends in an entry, the second one ends in its partner. -/
theorem exists_concat_of_forall₂ {as : List α} {a : α} {bs : List β} (h : List.Forall₂ R (as ++ [a]) bs) :
    ∃ earlier b, bs = earlier ++ [b] ∧ List.Forall₂ R as earlier ∧ R a b := by
  induction as generalizing bs with
  | nil =>
    cases h with
    | cons hab hrest =>
      cases hrest with
      | nil => exact ⟨[], _, rfl, .nil, hab⟩
  | cons a' as ih =>
    cases h with
    | @cons _ b' _ _ hab' hrest =>
      obtain ⟨earlier, b, rfl, hearlier, hab⟩ := ih hrest
      exact ⟨b' :: earlier, b, rfl, .cons hab' hearlier, hab⟩

/-- What the entries of both lists have in common makes the same list of both. -/
theorem map_eq_of_forall₂ {f : α → γ} {g : β → γ} (hfg : ∀ a b, R a b → f a = g b) {as : List α}
    {bs : List β} (h : List.Forall₂ R as bs) : as.map f = bs.map g := by
  induction h with
  | nil => rfl
  | cons hab _ ih => rw [List.map_cons, List.map_cons, hfg _ _ hab, ih]

/-- If every entry has a partner, there is a list of partners. -/
theorem exists_forall₂ {as : List α} (h : ∀ a ∈ as, ∃ b, R a b) : ∃ bs, List.Forall₂ R as bs := by
  induction as with
  | nil => exact ⟨[], .nil⟩
  | cons a as ih =>
    obtain ⟨⟨b, hab⟩, hrest⟩ := List.forall_mem_cons.mp h
    obtain ⟨bs, hbs⟩ := ih hrest
    exact ⟨b :: bs, .cons hab hbs⟩

/-- Every entry of the second list has a partner in the first. -/
theorem exists_partner {as : List α} {bs : List β} {b : β} (h : List.Forall₂ R as bs) (hb : b ∈ bs) :
    ∃ a ∈ as, R a b := by
  obtain ⟨earlier, later, rfl⟩ := List.append_of_mem hb
  obtain ⟨before, a, after, rfl, -, hab⟩ := forall₂_split h
  exact ⟨a, List.mem_append_right _ List.mem_cons_self, hab⟩

end DottedQuery
