/-
# DottedQuery.Proofs.Spec.PathGrammar -- which texts are paths

A path is written as segments with dots between them, and a segment is a letter or an underscore and
after it letters, digits and underscores, all of ASCII (`Dotted`). In any other text there is a first part
between dots that is no segment (`FirstFault`). Both are stated on characters and know nothing of how a
text is cut up.

Reading accepts exactly the dotted texts. The path that is read has the segments of the text and nothing
else, so that its key is the text again; and every path is read back from its key. What is refused is
refused with the first part at fault (`parse_and_key`).
-/
import DottedQuery.Proofs.Spec.Dotted

namespace DottedQuery

namespace FieldPath

/-! ## The grammar -/

/-- A letter of ASCII or an underscore. -/
def Initial (c : Char) : Prop := ('A' ≤ c ∧ c ≤ 'Z') ∨ ('a' ≤ c ∧ c ≤ 'z') ∨ c = '_'

/-- A letter or a digit of ASCII or an underscore. -/
def Later (c : Char) : Prop := Initial c ∨ ('0' ≤ c ∧ c ≤ '9')

/-- The characters of a segment. -/
inductive Segment : List Char → Prop
  | intro {first : Char} {rest : List Char} (hfirst : Initial first) (hrest : ∀ c ∈ rest, Later c) :
      Segment (first :: rest)

/-- Segments, and the text that they make with dots between them. -/
inductive Dotted : List (List Char) → List Char → Prop
  | one {cs : List Char} (hcs : Segment cs) : Dotted [cs] cs
  | more {cs text : List Char} {parts : List (List Char)} (hcs : Segment cs) (hrest : Dotted parts text) :
      Dotted (cs :: parts) (cs ++ '.' :: text)

/-- A text and its first part between dots that is no segment: the whole text or what is left of it, what
stands before the first dot, or such a part of what follows a segment and its dot. -/
inductive FirstFault : List Char → List Char → Prop
  | whole {bad : List Char} (hdot : '.' ∉ bad) (hbad : ¬Segment bad) : FirstFault bad bad
  | here {bad text : List Char} (hdot : '.' ∉ bad) (hbad : ¬Segment bad) :
      FirstFault (bad ++ '.' :: text) bad
  | later {cs text bad : List Char} (hcs : Segment cs) (hrest : FirstFault text bad) :
      FirstFault (cs ++ '.' :: text) bad

variable {c : Char} {cs text : List Char} {parts : List (List Char)} {s : String} {p p' : FieldPath}

/-! ## Segments and identifiers -/

theorem startsIdentifier_iff : startsIdentifier c = true ↔ Initial c := by
  have hupper : c.isUpper = true ↔ 'A' ≤ c ∧ c ≤ 'Z' := decide_eq_true_iff
  have hlower : c.isLower = true ↔ 'a' ≤ c ∧ c ≤ 'z' :=
    Bool.and_eq_true_iff.trans (and_congr decide_eq_true_iff decide_eq_true_iff)
  have halpha : c.isAlpha = true ↔ c.isUpper = true ∨ c.isLower = true := Bool.or_eq_true_iff
  rw [Initial, ← hupper, ← hlower, ← or_assoc, ← halpha]
  simp only [startsIdentifier, Bool.or_eq_true, decide_eq_true_eq]

theorem continuesIdentifier_iff : continuesIdentifier c = true ↔ Later c := by
  have hdigit : c.isDigit = true ↔ '0' ≤ c ∧ c ≤ '9' := by
    simp only [Char.isDigit, Bool.and_eq_true, decide_eq_true_eq, ge_iff_le, Char.le_def]
  rw [Later, ← startsIdentifier_iff, ← hdigit]
  simp only [continuesIdentifier, startsIdentifier, Char.isAlphanum, Bool.or_eq_true]
  exact or_right_comm

theorem identifierChars_iff : identifierChars cs = true ↔ Segment cs := by
  cases cs with
  | nil => exact iff_of_false nofun nofun
  | cons first rest =>
    rw [identifierChars, Bool.and_eq_true, startsIdentifier_iff, List.all_eq_true]
    simp only [continuesIdentifier_iff]
    constructor
    · rintro ⟨hfirst, hrest⟩
      exact .intro hfirst hrest
    · rintro ⟨hfirst, hrest⟩
      exact ⟨hfirst, hrest⟩

theorem isIdentifier_iff : isIdentifier s = true ↔ Segment s.toList := identifierChars_iff

theorem Segment.dot_not_mem (h : Segment cs) : '.' ∉ cs := by
  have hchars : isIdentifier (String.ofList cs) = true := by
    rw [isIdentifier_iff, String.toList_ofList]
    exact h
  have hdot := dot_not_mem_of_isIdentifier hchars
  rwa [String.toList_ofList] at hdot

/-! ## Cutting at dots -/

/-- Every text is cut at its first dot until there is none left. -/
@[elab_as_elim]
theorem cut_induction {motive : List Char → Prop} (last : ∀ cs, '.' ∉ cs → motive cs)
    (more : ∀ cs text, '.' ∉ cs → motive text → motive (cs ++ '.' :: text)) (text : List Char) :
    motive text := by
  by_cases hdot : '.' ∈ text
  · obtain ⟨cs, rest, htext, hcs⟩ := List.eq_append_cons_of_mem hdot
    have hshorter : rest.length < text.length := by
      rw [htext, List.length_append, List.length_cons]
      omega
    rw [htext]
    exact more cs rest hcs (cut_induction last more rest)
  · exact last text hdot
  termination_by text.length

theorem splitOn_of_dot_not_mem (h : '.' ∉ cs) : cs.splitOn '.' = [cs] :=
  List.splitOnP_eq_singleton fun _ hc => beq_false_of_ne fun heq => h (heq ▸ hc)

theorem splitOn_append_dot (h : '.' ∉ cs) (text : List Char) :
    (cs ++ '.' :: text).splitOn '.' = cs :: text.splitOn '.' := by
  have hcut : (cs ++ '.' :: text).splitOn '.' = cs.splitOn '.' ++ text.splitOn '.' :=
    List.splitOnP_append_cons cs text rfl
  rw [hcut, splitOn_of_dot_not_mem h, List.singleton_append]

/-- A text is dotted exactly if all its parts between dots are segments. -/
theorem dotted_iff : Dotted parts text ↔ text.splitOn '.' = parts ∧ ∀ cs ∈ parts, Segment cs := by
  constructor
  · intro h
    induction h with
    | one hcs => exact ⟨splitOn_of_dot_not_mem hcs.dot_not_mem, List.forall_mem_singleton.mpr hcs⟩
    | more hcs _ ih =>
      rw [splitOn_append_dot hcs.dot_not_mem, ih.1]
      exact ⟨rfl, List.forall_mem_cons.mpr ⟨hcs, ih.2⟩⟩
  · rintro ⟨rfl, h⟩
    induction text using cut_induction with
    | last cs hdot =>
      rw [splitOn_of_dot_not_mem hdot] at h ⊢
      exact .one (List.forall_mem_singleton.mp h)
    | more cs text hdot ih =>
      rw [splitOn_append_dot hdot] at h ⊢
      obtain ⟨hcs, hrest⟩ := List.forall_mem_cons.mp h
      exact .more hcs (ih hrest)

/-- The first part at fault is the first one between dots that is no segment. -/
theorem firstFault_iff {bad : List Char} : FirstFault text bad ↔
    (text.splitOn '.').find? (fun cs => !identifierChars cs) = some bad := by
  have hpass : ∀ {cs parts}, Segment cs → (cs :: parts).find? (fun cs => !identifierChars cs) =
      parts.find? fun cs => !identifierChars cs := by
    intro cs parts hcs
    rw [List.find?_cons, identifierChars_iff.mpr hcs]
    rfl
  have hstop : ∀ {cs parts}, ¬Segment cs →
      (cs :: parts).find? (fun cs => !identifierChars cs) = some cs := by
    intro cs parts hcs
    rw [List.find?_cons, Bool.eq_false_iff.mpr (mt identifierChars_iff.mp hcs)]
    rfl
  constructor
  · intro h
    induction h with
    | whole hdot hbad => rw [splitOn_of_dot_not_mem hdot, hstop hbad]
    | here hdot hbad => rw [splitOn_append_dot hdot, hstop hbad]
    | later hcs _ ih => rw [splitOn_append_dot hcs.dot_not_mem, hpass hcs, ih]
  · intro h
    induction text using cut_induction with
    | last cs hdot =>
      rw [splitOn_of_dot_not_mem hdot] at h
      by_cases hcs : Segment cs
      · rw [hpass hcs] at h
        cases h
      · rw [hstop hcs] at h
        cases h
        exact .whole hdot hcs
    | more cs text hdot ih =>
      rw [splitOn_append_dot hdot] at h
      by_cases hcs : Segment cs
      · rw [hpass hcs] at h
        exact .later hcs (ih h)
      · rw [hstop hcs] at h
        cases h
        exact .here hdot hcs

/-- There is one segment more than there are dots. -/
theorem Dotted.length_eq (h : Dotted parts text) : parts.length = text.count '.' + 1 := by
  induction h with
  | one hcs => rw [List.count_eq_zero.mpr hcs.dot_not_mem, List.length_singleton]
  | more hcs _ ih =>
    rw [List.length_cons, ih, List.count_append, List.count_eq_zero.mpr hcs.dot_not_mem,
      List.count_cons_self, Nat.zero_add]

/-- No other characters than those of segments and dots are in a dotted text. -/
theorem Dotted.later_of_mem (h : Dotted parts text) (hc : c ∈ text) (hdot : c ≠ '.') : Later c := by
  have hsegment : ∀ {cs}, Segment cs → c ∈ cs → Later c := by
    rintro _ ⟨hfirst, hrest⟩ hmem
    rcases List.mem_cons.mp hmem with rfl | hmem
    · exact Or.inl hfirst
    · exact hrest c hmem
  induction h with
  | one hcs => exact hsegment hcs hc
  | more hcs _ ih =>
    rcases List.mem_append.mp hc with hc | hc
    · exact hsegment hcs hc
    · exact ih ((List.mem_cons.mp hc).resolve_left hdot)

/-! ## Reading -/

/-- Segments are those of a path exactly if they are its relationships and then its field. -/
theorem ofSegments?_eq_some_iff {names : List String} :
    ofSegments? names = some p ↔ names = p.relationships ++ [p.field] := by
  rw [ofSegments?]
  constructor
  · intro h
    split at h
    · cases h
    rename_i field hfield
    split at h
    · cases h
      exact (List.dropLast_append_getLast? _ hfield).symm
    · cases h
  · rintro rfl
    split
    · rename_i hnone
      rw [List.getLast?_concat] at hnone
      cases hnone
    rename_i field hfield
    rw [List.getLast?_concat] at hfield
    cases hfield
    rw [dif_pos p.identifiers]
    simp only [List.dropLast_concat]

theorem segments_eq_iff {names : List String} :
    segments s = names ↔ s.toList.splitOn '.' = names.map String.toList := by
  rw [segments]
  constructor
  · rintro rfl
    rw [List.map_map]
    exact (List.map_id'' (fun _ => String.toList_ofList) _).symm
  · intro h
    rw [h, List.map_map]
    exact List.map_id'' (fun _ => String.ofList_toList) _

/-- The path that is read is the one whose segments make the text. -/
theorem parse_eq_ok_iff :
    parse s = .ok p ↔ Dotted ((p.relationships ++ [p.field]).map String.toList) s.toList := by
  have hparse : parse s = .ok p ↔ segments s = p.relationships ++ [p.field] := by
    rw [← ofSegments?_eq_some_iff, parse]
    cases ofSegments? (segments s) with
    | some path => rw [Except.ok.injEq, Option.some.injEq]
    | none => simp only [reduceCtorEq]
  have hsegments : ∀ cs ∈ (p.relationships ++ [p.field]).map String.toList, Segment cs := by
    intro cs hcs
    obtain ⟨name, hname, rfl⟩ := List.mem_map.mp hcs
    exact isIdentifier_iff.mp (p.identifiers name hname)
  rw [hparse, segments_eq_iff, dotted_iff]
  exact (and_iff_left hsegments).symm

/-- Segments make a path, and it is read from the text that they make. -/
theorem exists_parse_of_dotted (h : Dotted parts s.toList) : ∃ p, parse s = .ok p ∧
    (p.relationships ++ [p.field]).map String.toList = parts := by
  obtain ⟨hcut, hsegments⟩ := dotted_iff.mp h
  have hne : parts ≠ [] := by
    rw [← hcut]
    exact List.splitOn_ne_nil '.' s.toList
  obtain ⟨before, last, rfl⟩ := (List.eq_nil_or_concat' parts).resolve_left hne
  have hnames : (before.map String.ofList ++ [String.ofList last]).map String.toList =
      before ++ [last] := by
    rw [List.map_append, List.map_map, List.map_singleton, String.toList_ofList]
    exact congrArg (· ++ [last]) (List.map_id'' (fun _ => String.toList_ofList) before)
  have hidentifiers : ∀ name ∈ before.map String.ofList ++ [String.ofList last],
      isIdentifier name = true := by
    intro name hname
    refine isIdentifier_iff.mpr (hsegments _ ?_)
    rw [← hnames]
    exact List.mem_map_of_mem hname
  refine ⟨⟨before.map String.ofList, String.ofList last, hidentifiers⟩, ?_, hnames⟩
  rw [parse_eq_ok_iff, hnames]
  exact h

theorem exists_parse_iff : (∃ p, parse s = .ok p) ↔ ∃ parts, Dotted parts s.toList := by
  constructor
  · rintro ⟨p, hp⟩
    exact ⟨_, parse_eq_ok_iff.mp hp⟩
  · rintro ⟨parts, h⟩
    obtain ⟨p, hp, -⟩ := exists_parse_of_dotted h
    exact ⟨p, hp⟩

/-- Reading fails with the text and its first part at fault. -/
theorem parse_eq_error_iff {e : InvalidPath} :
    parse s = .error e ↔ e.path = s ∧ FirstFault s.toList e.segment.toList := by
  have hfind : (segments s).find? (fun part => !isIdentifier part) =
      ((s.toList.splitOn '.').find? fun cs => !identifierChars cs).map String.ofList := by
    have htest : ((fun part => !isIdentifier part) ∘ String.ofList) = fun cs => !identifierChars cs := by
      funext cs
      rw [Function.comp_apply, isIdentifier, String.toList_ofList]
    rw [segments, List.find?_map, htest]
  rw [firstFault_iff, parse, hfind]
  cases hcut : (s.toList.splitOn '.').find? fun cs => !identifierChars cs with
  | none =>
    have hsegments : ∀ cs ∈ s.toList.splitOn '.', Segment cs := by
      intro cs hcs
      have hgood := List.find?_eq_none.mp hcut cs hcs
      exact identifierChars_iff.mp (by simpa using hgood)
    obtain ⟨p, hp, -⟩ := exists_parse_of_dotted (dotted_iff.mpr ⟨rfl, hsegments⟩)
    rw [parse, hfind, hcut] at hp
    rw [hp]
    simp only [reduceCtorEq, and_false]
  | some bad =>
    cases hpath : ofSegments? (segments s) with
    | some p =>
      -- the segments of a path are identifiers, and one of these is none
      have hidentifiers := p.identifiers
      rw [← ofSegments?_eq_some_iff.mp hpath] at hidentifiers
      have hbad := List.find?_some hcut
      have hmem := List.mem_map_of_mem (f := String.ofList) (List.mem_of_find?_eq_some hcut)
      have hgood := hidentifiers _ hmem
      rw [isIdentifier, String.toList_ofList] at hgood
      rw [hgood] at hbad
      cases hbad
    | none =>
      rw [Option.map_some, Option.getD_some, Except.error.injEq, Option.some.injEq]
      constructor
      · rintro rfl
        exact ⟨rfl, String.toList_ofList.symm⟩
      · rintro ⟨rfl, rfl⟩
        rw [String.ofList_toList]

/-- What a path has of the text that it was read from. -/
structure Spells (p : FieldPath) (s : String) : Prop where
  /-- The relationships and then the field are the segments of the text. -/
  dotted : Dotted ((p.relationships ++ [p.field]).map String.toList) s.toList
  key_eq : p.key = s
  depth_eq : p.depth = s.toList.count '.'

theorem spells_of_parse (h : parse s = .ok p) : p.Spells s := by
  have hdotted := parse_eq_ok_iff.mp h
  refine ⟨hdotted, key_of_parse h, ?_⟩
  have hlength := hdotted.length_eq
  rw [List.length_map, List.length_append, List.length_singleton] at hlength
  exact Nat.succ_inj.mp hlength

/-- A path is read back from its key. -/
theorem parse_key (p : FieldPath) : parse p.key = .ok p := by
  rw [parse_eq_ok_iff, dotted_iff, ← segments_eq_iff]
  refine ⟨segments_key p, fun cs hcs => ?_⟩
  obtain ⟨name, hname, rfl⟩ := List.mem_map.mp hcs
  exact isIdentifier_iff.mp (p.identifiers name hname)

/-- Reading accepts the dotted texts, and none that has another character than letters, digits,
underscores and dots of ASCII; the path has the text for its key, one relationship for each dot, and the
last segment for its field. Any other text is refused, and the message has the text and its first part at
fault. All names that are segments make a path that is read back from its key, and two paths that were
read and have one key are the same. -/
theorem parse_and_key :
    (∀ s, ((∃ p, parse s = .ok p) ↔ ∃ parts, Dotted parts s.toList) ∧
      (∀ p, parse s = .ok p → p.Spells s ∧ ∀ c ∈ s.toList, c ≠ '.' → Later c) ∧
      ∀ e, parse s = .error e ↔ e.path = s ∧ FirstFault s.toList e.segment.toList) ∧
    (∀ names field, (∀ name ∈ names ++ [field], Segment name.toList) → ∃ p : FieldPath,
      p.relationships = names ∧ p.field = field ∧ parse p.key = .ok p) ∧
    (∀ s s' p p', parse s = .ok p → parse s' = .ok p' → p.key = p'.key → p = p') ∧
    ∀ s e, parse s = .error e → e.message =
      "Invalid field path '" ++ s ++ "': segment '" ++ e.segment ++ "' is not an identifier" := by
  refine ⟨fun s => ⟨exists_parse_iff, fun p hp => ⟨spells_of_parse hp, fun c hc hdot => ?_⟩,
    fun e => parse_eq_error_iff⟩, fun names field hsegments => ?_, fun s s' p p' _ _ hkey => ?_,
    fun s e he => ?_⟩
  · exact (parse_eq_ok_iff.mp hp).later_of_mem hc hdot
  · let p : FieldPath := ⟨names, field, fun name hname => isIdentifier_iff.mpr (hsegments name hname)⟩
    exact ⟨p, rfl, rfl, parse_key p⟩
  · exact key_injective hkey
  · obtain ⟨rfl, -⟩ := parse_eq_error_iff.mp he
    rfl

/-- A line break at the end of a segment, where it is easily overlooked, is at fault. -/
theorem parse_and_key_album :
    (∃ p, parse "album._2.title" = .ok p ∧ p.Spells "album._2.title" ∧ p.depth = 2) ∧
    FirstFault "album.title\n".toList "title\n".toList ∧
    InvalidPath.message ⟨"album.title\n", "title\n"⟩ =
      "Invalid field path 'album.title\n': segment 'title\n' is not an identifier" ∧
    ∃ p : FieldPath, p.relationships = ["album"] ∧ p.field = "title" ∧ parse p.key = .ok p := by
  obtain ⟨hread, hback, -, hmessage⟩ := parse_and_key
  obtain ⟨p, hp⟩ : ∃ p, parse "album._2.title" = .ok p := ⟨_, rfl⟩
  have hspells := ((hread _).2.1 p hp).1
  have herror : parse "album.title\n" = .error ⟨"album.title\n", "title\n"⟩ := rfl
  refine ⟨⟨p, hp, hspells, hspells.depth_eq⟩, (((hread _).2.2 _).mp herror).2, ?_, ?_⟩
  · exact hmessage _ _ herror
  · refine hback ["album"] "title" fun name hname => isIdentifier_iff.mp ?_
    rcases List.mem_cons.mp hname with rfl | hname
    · decide
    · rw [List.mem_singleton.mp hname]
      decide

end FieldPath

end DottedQuery
