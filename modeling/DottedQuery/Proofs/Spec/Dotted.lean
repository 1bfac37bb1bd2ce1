/-
# DottedQuery.Proofs.Spec.Dotted -- dotted texts of identifiers

Identifiers hold no dot and are not empty, so a list of identifiers can be read off its dotted text:
splitting at the dots gives the list back (`segments_dotted`), and different lists have different
texts (`dotted_injective`). The empty list has the empty text, which no other list has. A path is
such a list with the field at its end: its key is the text that it was read from (`key_of_parse`), and
different paths have different keys (`key_injective`).
-/
import DottedQuery.Spec.Path
import Mathlib.Data.List.Basic

namespace DottedQuery

/-- Letters, digits and underscores are no dots. -/
theorem dot_not_mem_of_continues {cs : List Char} (h : cs.all continuesIdentifier = true) :
    '.' ∉ cs := by
  intro hdot
  have hbad : continuesIdentifier '.' = true := List.all_eq_true.mp h '.' hdot
  exact absurd hbad (by decide)

theorem dot_not_mem_of_isIdentifier {s : String} (h : isIdentifier s = true) : '.' ∉ s.toList := by
  unfold isIdentifier at h
  cases hs : s.toList with
  | nil => exact List.not_mem_nil
  | cons first rest =>
    rw [hs, identifierChars, Bool.and_eq_true] at h
    rintro (_ | ⟨_, hrest⟩)
    · exact absurd h.1 (by decide)
    · exact dot_not_mem_of_continues h.2 hrest

theorem ne_empty_of_isIdentifier {s : String} (h : isIdentifier s = true) : s ≠ "" := by
  rintro rfl
  exact absurd h (by decide)

/-- Splitting a dotted text at its dots gives the identifiers back. -/
theorem segments_dotted {parts : List String} (h : ∀ s ∈ parts, isIdentifier s = true)
    (hne : parts ≠ []) : FieldPath.segments (String.intercalate "." parts) = parts := by
  have hdots : ∀ cs ∈ parts.map String.toList, '.' ∉ cs := by
    intro cs hcs
    obtain ⟨s, hs, rfl⟩ := List.mem_map.mp hcs
    exact dot_not_mem_of_isIdentifier (h s hs)
  have hsep : ".".toList = ['.'] := rfl
  rw [FieldPath.segments, String.toList_intercalate, hsep,
    List.splitOn_intercalate '.' hdots (by simpa using hne), List.map_map]
  calc parts.map (String.ofList ∘ String.toList) = parts.map id :=
        List.map_congr_left fun s _ => String.ofList_toList
    _ = parts := List.map_id parts

/-- Only the empty list has the empty text: any other one gives its segments back, and the one
segment of the empty text is no identifier. -/
theorem eq_nil_of_dotted_empty {parts : List String} (h : ∀ s ∈ parts, isIdentifier s = true)
    (hempty : String.intercalate "." parts = "") : parts = [] := by
  by_cases hne : parts = []
  · exact hne
  · have hsegments := segments_dotted h hne
    rw [hempty] at hsegments
    have hmem : "" ∈ parts := by
      rw [← hsegments]
      exact List.mem_singleton.mpr rfl
    exact absurd rfl (ne_empty_of_isIdentifier (h "" hmem))

/-- Different lists of identifiers have different dotted texts. -/
theorem dotted_injective {parts parts' : List String} (h : ∀ s ∈ parts, isIdentifier s = true)
    (h' : ∀ s ∈ parts', isIdentifier s = true)
    (heq : String.intercalate "." parts = String.intercalate "." parts') : parts = parts' := by
  by_cases hparts : parts = []
  · subst hparts
    exact (eq_nil_of_dotted_empty h' (heq.symm.trans String.intercalate_nil)).symm
  · by_cases hparts' : parts' = []
    · subst hparts'
      exact eq_nil_of_dotted_empty h (heq.trans String.intercalate_nil)
    · rw [← segments_dotted h hparts, ← segments_dotted h' hparts', heq]

/-! ## Keys of paths -/

namespace FieldPath

/-- The last segment of a dotted text. -/
def lastSegment (s : String) : String := (segments s).getLast?.getD ""

/-- A path is read from a text whose segments are its relationships and then its field. -/
theorem segments_of_parse {s : String} {p : FieldPath} (h : parse s = .ok p) :
    segments s = p.relationships ++ [p.field] := by
  rw [parse] at h
  split at h
  · rename_i path hpath
    cases h
    rw [ofSegments?] at hpath
    split at hpath
    · cases hpath
    rename_i field hfield
    split at hpath
    · cases hpath
      exact (List.dropLast_append_getLast? _ hfield).symm
    · cases hpath
  · cases h

/-- The key of a path is the text that it was read from. -/
theorem key_of_parse {s : String} {p : FieldPath} (h : parse s = .ok p) : p.key = s := by
  have hchars : ((p.relationships ++ [p.field]).map String.toList) = s.toList.splitOn '.' := by
    rw [← segments_of_parse h, segments, List.map_map]
    calc (s.toList.splitOn '.').map (String.toList ∘ String.ofList)
        = (s.toList.splitOn '.').map id := List.map_congr_left fun cs _ => String.toList_ofList
      _ = s.toList.splitOn '.' := List.map_id _
  have hsep : ".".toList = ['.'] := rfl
  -- joining the segments again undoes the split for any text, whether they are identifiers or not
  apply String.toList_injective
  rw [key, String.toList_intercalate, hchars, hsep, List.intercalate_splitOn]

theorem segments_key (p : FieldPath) : segments p.key = p.relationships ++ [p.field] :=
  segments_dotted p.identifiers (List.concat_ne_nil _ _)

/-- The last segment of a path's key is its field. -/
theorem lastSegment_key (p : FieldPath) : lastSegment p.key = p.field := by
  rw [lastSegment, segments_key, List.getLast?_concat, Option.getD_some]

/-- Different paths have different keys. -/
theorem key_injective : Function.Injective key := by
  intro p p' h
  have hsegments := (segments_key p).symm.trans ((congrArg segments h).trans (segments_key p'))
  obtain ⟨hrelationships, hfield⟩ := List.append_inj' hsegments rfl
  cases p
  cases p'
  cases hrelationships
  cases hfield
  rfl

end FieldPath

end DottedQuery
