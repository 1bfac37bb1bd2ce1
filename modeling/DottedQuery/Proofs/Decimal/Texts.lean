/-
# DottedQuery.Proofs.Decimal.Texts -- numbers have texts

A layout puts a point, zeros, an exponent and a sign around the digits of a number. It never drops all
of them, so no finite double has the empty text, in any layout (`unsigned_ne_nil`). Of the values that
are not finite the layout itself says what their texts are.

Nor does it add much: in plain text a number is letters, digits, a point and a minus sign
(`mem_plain_render`), and an integer is digits behind a minus sign or none (`mem_toString`).
-/
import DottedQuery.Decimal.Layout
import DottedQuery.Proofs.Text.Letters
import Mathlib.Data.List.Basic
import Mathlib.Data.Nat.Digits.Defs

namespace DottedQuery.Decimal

/-! ## The two notations -/

theorem pointAfter_ne_nil (whole : Nat) (digits : List Char) : pointAfter whole digits ≠ [] :=
  List.append_ne_nil_of_right_ne_nil _ (List.cons_ne_nil _ _)

theorem positionalText_ne_nil {digits : List Char} (h : digits ≠ []) (keepsFraction : Bool)
    (exponent : Int) : positionalText keepsFraction digits exponent ≠ [] := by
  unfold positionalText
  dsimp only
  split
  · rw [List.append_assoc]
    exact List.append_ne_nil_of_left_ne_nil h _
  · split
    · exact pointAfter_ne_nil _ _
    · exact List.cons_ne_nil _ _

theorem scientific_ne_nil (layout : Layout) (digits : List Char) (power : Int) :
    layout.scientific digits power ≠ [] := by
  have hexponent : Nat.toDigits 10 power.natAbs ≠ [] := Nat.toDigits_ne_nil
  exact List.append_ne_nil_of_right_ne_nil _ hexponent

/-! ## Texts -/

/-- The digits without their sign are at least one character, whichever notation is chosen. -/
theorem unsigned_ne_nil (layout : Layout) (d : Digits) : layout.unsigned d ≠ [] := by
  unfold Layout.unsigned
  dsimp only
  split
  · exact positionalText_ne_nil Nat.toDigits_ne_nil _ _
  · exact scientific_ne_nil _ _ _

/-- A layout with a text for every value that is not finite has a text for every double. -/
theorem render_ne_empty {layout : Layout} (hnan : layout.nan ≠ "")
    (hinfinite : ∀ negative, layout.infinite negative ≠ "") (x : Float) : layout.render x ≠ "" := by
  rw [Layout.render, Layout.renderParts]
  split
  · exact hnan
  · exact hinfinite _
  · intro hempty
    have hchars : _ ++ layout.unsigned _ = [] := String.ofList_eq_empty_iff.mp hempty
    exact unsigned_ne_nil layout _ (List.append_eq_nil_iff.mp hchars).2

/-- The text that keeps the type of a number visible is never empty. -/
theorem typed_render_ne_empty (x : Float) : typed.render x ≠ "" := by
  refine render_ne_empty (by decide) (fun negative => ?_) x
  cases negative with
  | false => decide
  | true => decide

/-! ## Characters -/

variable {c : Char}

theorem mem_pointAfter {whole : Nat} {digits : List Char} (h : c ∈ pointAfter whole digits) :
    c ∈ digits ∨ c = '.' := by
  rw [pointAfter, List.mem_append, List.mem_cons] at h
  obtain h | rfl | h := h
  · exact Or.inl (List.mem_of_mem_take h)
  · exact Or.inr rfl
  · exact Or.inl (List.mem_of_mem_drop h)

/-- Positional notation has zeros and a point beside the digits. -/
theorem mem_positionalText {keepsFraction : Bool} {digits : List Char} {exponent : Int}
    (h : c ∈ positionalText keepsFraction digits exponent) : c ∈ digits ∨ c = '0' ∨ c = '.' := by
  have htail : ∀ d ∈ (if keepsFraction then ['.', '0'] else []), d = '0' ∨ d = '.' := by
    cases keepsFraction with
    | false => exact List.forall_mem_nil _
    | true => simp
  unfold positionalText at h
  dsimp only at h
  split at h
  · rw [List.mem_append, List.mem_append] at h
    obtain (h | h) | h := h
    · exact Or.inl h
    · exact Or.inr (Or.inl (List.eq_of_mem_replicate h))
    · exact Or.inr (htail c h)
  split at h
  · obtain h | h := mem_pointAfter h
    · exact Or.inl h
    · exact Or.inr (Or.inr h)
  · rw [List.mem_append, List.mem_cons, List.mem_cons] at h
    obtain (rfl | rfl | h) | h := h
    · exact Or.inr (Or.inl rfl)
    · exact Or.inr (Or.inr rfl)
    · exact Or.inr (Or.inl (List.eq_of_mem_replicate h))
    · exact Or.inl h

/-- A number in plain text, whether it is finite or not. -/
theorem mem_plain_render {x : Float} (h : c ∈ (plain.render x).toList) :
    c.isAlphanum = true ∨ c = '-' ∨ c = '.' := by
  have hwords : ∀ word ∈ ["NaN", "inf", "-inf"], word.toList.Forall fun c =>
      c.isAlphanum = true ∨ c = '-' ∨ c = '.' := by decide
  have hword {word : String} (hmem : word ∈ ["NaN", "inf", "-inf"]) (h : c ∈ word.toList) :
      c.isAlphanum = true ∨ c = '-' ∨ c = '.' := List.forall_iff_forall_mem.mp (hwords word hmem) c h
  rw [Layout.render, Layout.renderParts] at h
  split at h
  · exact hword (by decide) h
  · refine hword ?_ h
    cases (Binary64.ofFloat x).negative with
    | false => decide
    | true => decide
  · rename_i m q _
    rw [String.toList_ofList, List.mem_append] at h
    obtain h | h := h
    · split at h
      · exact Or.inr (Or.inl (List.mem_singleton.mp h))
      · cases h
    -- plain text is positional whatever the magnitude
    have hpositional : plain.unsigned (shortest plain.tie m q) =
        positionalText false (Nat.toDigits 10 (shortest plain.tie m q).digits)
          (shortest plain.tie m q).exponent := if_pos (Or.inr rfl)
    rw [hpositional] at h
    obtain h | rfl | rfl := mem_positionalText h
    · have hdigit := Nat.isDigit_of_mem_toDigits (by decide) (by decide) h
      exact Or.inl (by rw [Char.isAlphanum, hdigit, Bool.or_true])
    · exact Or.inl (by decide)
    · exact Or.inr (Or.inr rfl)

/-- An integer has digits, and a minus sign if it is negative. -/
theorem mem_toString {n : Int} (h : c ∈ (toString n).toList) : c.isDigit = true ∨ c = '-' := by
  cases n with
  | ofNat m => exact Or.inl (Text.isDigit_of_mem_repr h)
  | negSucc m =>
    have hchars : (toString (Int.negSucc m)).toList = '-' :: (toString (m + 1)).toList := by
      show ("-" ++ toString (m + 1)).toList = _
      rw [String.toList_append]
      rfl
    rw [hchars] at h
    obtain rfl | h := List.mem_cons.mp h
    · exact Or.inr rfl
    · exact Or.inl (Text.isDigit_of_mem_repr h)

end DottedQuery.Decimal
