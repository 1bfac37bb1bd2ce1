/-
# DottedQuery.Proofs.Reordering -- lists in another order

An order of the entries of a list is a list of their places. `reorder` takes the entries from these
places; if every place occurs once in the order, the result has the same entries as before. Lists that
belong together entry by entry, such as fields and selections, or fields and the values of a row, still
do after both were put in the same order.
-/
import DottedQuery.Proofs.Pairing
import Mathlib.Data.List.Perm.Basic

namespace DottedQuery

variable {α β γ : Type} {order : List Nat}

/-- The entries at these places, in this order. -/
def reorder (order : List Nat) (xs : List α) : List α := order.filterMap (xs[·]?)

theorem reorder_cons (k : Nat) (order : List Nat) (xs : List α) :
    reorder (k :: order) xs = xs[k]?.toList ++ reorder order xs := by
  rw [reorder, List.filterMap_cons]
  cases xs[k]? <;> rfl

theorem reorder_map (order : List Nat) (f : α → β) (xs : List α) :
    reorder order (xs.map f) = (reorder order xs).map f := by
  rw [reorder, reorder, List.map_filterMap]
  simp only [List.getElem?_map]

theorem reorder_range (xs : List α) : reorder (List.range xs.length) xs = xs := by
  induction xs with
  | nil => rfl
  | cons x xs ih =>
    rw [List.length_cons, List.range_succ_eq_map, reorder_cons]
    have hrest : reorder ((List.range xs.length).map Nat.succ) (x :: xs) =
        reorder (List.range xs.length) xs := by
      rw [reorder, List.filterMap_map]
      rfl
    rw [hrest, ih]
    rfl

/-- An order that has every place once keeps all entries. -/
theorem reorder_perm {xs : List α} (h : order.Perm (List.range xs.length)) :
    (reorder order xs).Perm xs := by
  have hperm : (reorder order xs).Perm (reorder (List.range xs.length) xs) := h.filterMap _
  rwa [reorder_range] at hperm

/-- Entries that belong together still do in another order. -/
theorem forall₂_reorder {R : α → β → Prop} {xs : List α} {ys : List β} (h : List.Forall₂ R xs ys)
    (order : List Nat) : List.Forall₂ R (reorder order xs) (reorder order ys) := by
  induction order with
  | nil => exact .nil
  | cons k order ih =>
    rw [reorder_cons, reorder_cons]
    refine List.rel_append ?_ ih
    rcases Nat.lt_or_ge k xs.length with hlt | hge
    · have hlt' : k < ys.length := h.length_eq ▸ hlt
      rw [List.getElem?_eq_getElem hlt, List.getElem?_eq_getElem hlt']
      exact .cons (h.get hlt hlt') .nil
    · rw [List.getElem?_eq_none hge, List.getElem?_eq_none (h.length_eq ▸ hge)]
      exact .nil

/-- What is made of reordered entries is what was made of the entries, in the new order. -/
theorem eq_reorder_map {R : α → β → Prop} {R' : α → γ → Prop} {f : β → γ}
    (hf : ∀ x y y', R x y → R' x y' → f y = y') {xs : List α} {ys : List β} {ys' : List γ}
    (h : List.Forall₂ R xs ys) (h' : List.Forall₂ R' (reorder order xs) ys') :
    ys' = reorder order (ys.map f) := by
  have hpairs : List.Forall₂ (fun y y' => f y = y') (reorder order ys) ys' :=
    forall₂_trans (fun y x y' hxy hxy' => hf x y y' hxy hxy') (forall₂_reorder h order).flip h'
  rw [reorder_map, map_eq_of_forall₂ (fun _ _ h => h) hpairs, List.map_id']

end DottedQuery
