/-
# DottedQuery.Proofs.Naming.Labels -- labels of columns in snake case

A column is named by words of small letters and digits with single underscores between them. Its label is
meant to be the name with spaces for the underscores and a capital at the beginning. What is written is a
little different. A space comes before a letter that follows an underscore or a digit, and nothing comes of
the underscore itself (`sentence_of_snake`): a number is written right after the word before it, and what
follows a number begins a word.

So the label is the one that is meant exactly if no word begins with a digit and none goes on with a letter
after a digit (`continued_eq_spaced_iff`).
-/
import DottedQuery.Naming.Sentence
import DottedQuery.Proofs.Text.Letters
import Mathlib.Data.List.Chain

namespace DottedQuery.Naming

/-! ## Names -/

/-- A character of a word. -/
def IsWordChar (c : Char) : Prop := c.isLower = true ∨ c.isDigit = true

instance (c : Char) : Decidable (IsWordChar c) := inferInstanceAs (Decidable (_ ∨ _))

/-- Words with single underscores between them. -/
inductive Words : List Char → Prop
  | one {c : Char} (hc : IsWordChar c) : Words [c]
  | more {c : Char} {rest : List Char} (hc : IsWordChar c) (hrest : Words rest) : Words (c :: rest)
  | next {c : Char} {rest : List Char} (hc : IsWordChar c) (hrest : Words rest) :
      Words (c :: '_' :: rest)

/-- Words with single underscores between them, of which the first begins with a letter. -/
structure IsSnake (name : List Char) : Prop where
  words : Words name
  letter : ∀ c ∈ name.head?, c.isLower = true

variable {c d : Char} {name rest stem : List Char}

/-! ## What is meant -/

/-- Spaces in place of underscores. -/
def spaced (name : List Char) : List Char := name.map fun c => if c = '_' then ' ' else c

/-- A capital at the beginning. -/
def capitalized : List Char → List Char
  | [] => []
  | c :: rest => c.toUpper :: rest

/-- The name itself or, if that is asked for, what stands before `_id` if anything does. -/
inductive Kept : Bool → String → String → Prop
  | stem {stem : String} (hstem : stem ≠ "") : Kept true (stem ++ "_id") stem
  | whole {strip : Bool} {name : String}
      (hname : strip = true → ∀ stem, name = stem ++ "_id" → stem = "") : Kept strip name name

/-! ## What is written -/

/-- What is written for a character after another. -/
def joint (previous c : Char) : List Char :=
  if c = '_' then []
  else if c.isLower && (previous = '_' || previous.isDigit) then [' ', c]
  else [c]

/-- What is written for the characters of a name but the first. -/
def continued : List Char → List Char
  | previous :: c :: rest => joint previous c ++ continued (c :: rest)
  | _ => []

/-- What is written for a name. -/
def label : List Char → List Char
  | [] => []
  | c :: rest => c.toUpper :: continued (c :: rest)

/-! ## Characters of words -/

namespace IsWordChar

theorem isAlphanumeric (h : IsWordChar c) : Text.isAlphanumeric c = true := by
  obtain h | h := h
  · exact Text.isAlphanumeric_of_isLower h
  · exact Text.isAlphanumeric_of_isDigit h

theorem ne_underscore (h : IsWordChar c) : c ≠ '_' := by
  rintro rfl
  rw [IsWordChar] at h
  revert h
  decide

end IsWordChar

/-! ## Parts of names -/

namespace Words

theorem ne_nil (h : Words name) : name ≠ [] := by
  cases h <;> exact List.cons_ne_nil _ _

theorem head? (h : Words name) : ∀ c ∈ name.head?, IsWordChar c := by
  rintro c hc
  cases h with
  | one h | more h | next h =>
    rw [← Option.some.inj hc]
    exact h

theorem getLast? (h : Words name) : ∀ c ∈ name.getLast?, IsWordChar c := by
  induction h with
  | one hc =>
    intro d hd
    rw [← Option.some.inj hd]
    exact hc
  | more hc hrest ih =>
    rw [List.getLast?_cons_of_ne_nil hrest.ne_nil]
    exact ih
  | next hc hrest ih =>
    rw [List.getLast?_cons_of_ne_nil (List.cons_ne_nil _ _), List.getLast?_cons_of_ne_nil hrest.ne_nil]
    exact ih

theorem forall_mem (h : Words name) : ∀ c ∈ name, c = '_' ∨ IsWordChar c := by
  induction h with
  | one hc => exact List.forall_mem_singleton.mpr (Or.inr hc)
  | more hc _ ih => exact List.forall_mem_cons.mpr ⟨Or.inr hc, ih⟩
  | next hc _ ih =>
    exact List.forall_mem_cons.mpr ⟨Or.inr hc, List.forall_mem_cons.mpr ⟨Or.inl rfl, ih⟩⟩

theorem of_forall (hnil : name ≠ []) (h : name.Forall IsWordChar) : Words name := by
  induction name with
  | nil => exact absurd rfl hnil
  | cons c rest ih =>
    obtain ⟨hc, hrest⟩ := (List.forall_cons _ _ _).mp h
    by_cases hnil : rest = []
    · exact hnil ▸ .one hc
    · exact .more hc (ih hnil hrest)

theorem append (h : Words name) (hrest : Words rest) : Words (name ++ '_' :: rest) := by
  induction h with
  | one hc => exact .next hc hrest
  | more hc _ ih => exact .more hc ih
  | next hc _ ih => exact .next hc ih

/-- Words remain before any of the underscores. -/
theorem before_underscore (h : Words (stem ++ '_' :: rest)) : Words stem := by
  generalize hname : stem ++ '_' :: rest = name at h
  induction h generalizing stem with
  | one hc =>
    cases stem with
    | nil => exact absurd (List.cons.inj hname).1.symm hc.ne_underscore
    | cons d stem => exact absurd (List.cons.inj hname).2 (by simp)
  | more hc hrest ih =>
    cases stem with
    | nil => exact absurd (List.cons.inj hname).1.symm hc.ne_underscore
    | cons d stem =>
      obtain ⟨rfl, htail⟩ := List.cons.inj hname
      exact .more hc (ih htail)
  | next hc hrest ih =>
    cases stem with
    | nil => exact absurd (List.cons.inj hname).1.symm hc.ne_underscore
    | cons d stem =>
      obtain ⟨rfl, htail⟩ := List.cons.inj hname
      cases stem with
      | nil => exact .one hc
      | cons e stem =>
        obtain ⟨rfl, hrest⟩ := List.cons.inj htail
        exact .next hc (ih hrest)

end Words

/-! ## Scanning -/

/-- Whether a letter after this character begins a word. -/
def opens (previous : Char) : Bool := previous = '_' || previous.isDigit

theorem opens_of_isLower (h : c.isLower = true) : opens c = false := by
  rw [opens, Text.not_isDigit_of_isLower h, Bool.or_false, decide_eq_false_iff_not]
  exact IsWordChar.ne_underscore (.inl h)

theorem opens_of_isDigit (h : c.isDigit = true) : opens c = true := by
  rw [opens, h, Bool.or_true]

theorem joint_of_isLower (h : c.isLower = true) (previous : Char) :
    joint previous c = if opens previous then [' ', c] else [c] := by
  simp only [joint, if_neg (IsWordChar.ne_underscore (.inl h)), h, opens, Bool.true_and, Bool.or_eq_true,
    decide_eq_true_eq]

theorem joint_of_isDigit (h : c.isDigit = true) (previous : Char) : joint previous c = [c] := by
  have hlower : c.isLower = false := by
    rw [← Bool.not_eq_true]
    exact fun hlower => absurd h (by rw [Text.not_isDigit_of_isLower hlower]; decide)
  rw [joint, if_neg (IsWordChar.ne_underscore (.inr h)), hlower, Bool.false_and, if_neg Bool.false_ne_true]

/-- Past the first letter the scan writes joints: whether the next letter is fresh is whether the character
before it opens a word, and no letter is upper case. -/
theorem sentenceChars_continued (h : ∀ c ∈ rest, c = '_' ∨ IsWordChar c) (previous last : Char) :
    sentenceChars (opens previous) false last rest = continued (previous :: rest) := by
  induction rest generalizing previous last with
  | nil => rfl
  | cons c rest ih =>
    obtain ⟨hc, hrest⟩ := List.forall_mem_cons.mp h
    rw [continued]
    obtain rfl | hlower | hdigit := hc
    -- the last letter is kept across underscores and digits, but only an upper case letter asks for it
    · rw [← ih hrest '_' last, sentenceChars, Text.isAlphanumeric_underscore]
      rfl
    · rw [joint_of_isLower hlower, sentenceChars, Text.isAlphanumeric_of_isLower hlower,
        Text.isNumeric_of_isLower hlower, Text.isUppercase_of_isLower hlower, Text.toLower_of_isLower hlower]
      cases hopens : opens previous with
      | false => rw [← ih hrest c c, opens_of_isLower hlower, Bool.and_false, Bool.false_and]; rfl
      | true => rw [← ih hrest c last, opens_of_isLower hlower]; rfl
    · rw [joint_of_isDigit hdigit, ← ih hrest c last, opens_of_isDigit hdigit, sentenceChars,
        Text.isAlphanumeric_of_isDigit hdigit, Text.isNumeric_of_isDigit hdigit]
      rfl

theorem trimEnds_words (h : Words name) : Text.trimEnds (!Text.isAlphanumeric ·) name = name := by
  have hkeep {s : List Char} (hs : ∀ c ∈ s.head?, IsWordChar c) :
      s.dropWhile (!Text.isAlphanumeric ·) = s := by
    cases s with
    | nil => rfl
    | cons c s => rw [List.dropWhile_cons, (hs c rfl).isAlphanumeric]; rfl
  rw [Text.trimEnds, hkeep h.head?, hkeep, List.reverse_reverse]
  rw [List.head?_reverse]
  exact h.getLast?

/-- How a name in snake case is written. -/
theorem sentence_of_snake {name : String} (h : IsSnake name.toList) :
    sentence name = String.ofList (label name.toList) := by
  rw [sentence, trimEnds_words h.words]
  congr 1
  cases hname : name.toList with
  | nil => rfl
  | cons c rest =>
    have hlower : c.isLower = true := h.letter c (by rw [hname]; rfl)
    have hrest : ∀ c ∈ rest, c = '_' ∨ IsWordChar c := by
      have hall := h.words.forall_mem
      rw [hname] at hall
      exact (List.forall_mem_cons.mp hall).2
    rw [label, ← sentenceChars_continued hrest c ' ', opens_of_isLower hlower, sentenceChars,
      Text.isAlphanumeric_of_isLower hlower, Text.isNumeric_of_isLower hlower]
    rfl

/-! ## Where that is what is meant -/

/-- Whether two characters in a row get a space between them exactly if the first is an underscore. -/
def Faithful (previous c : Char) : Prop :=
  ¬(previous = '_' ∧ c.isDigit = true) ∧ ¬(previous.isDigit = true ∧ c.isLower = true)

instance (previous c : Char) : Decidable (Faithful previous c) := inferInstanceAs (Decidable (_ ∧ _))

theorem faithful_underscore (previous : Char) : Faithful previous '_' :=
  ⟨fun h => absurd h.2 (by decide), fun h => absurd h.2 (by decide)⟩

theorem IsWordChar.ne_blank (h : IsWordChar c) : ' ' ≠ c := by
  rintro rfl
  rw [IsWordChar] at h
  revert h
  decide

/-- Inside a word a space comes exactly before a letter after a digit. -/
theorem joint_of_word (hc : IsWordChar c) (hd : IsWordChar d) :
    joint c d = if Faithful c d then [d] else [' ', d] := by
  have hword : c ≠ '_' := hc.ne_underscore
  obtain hlower | hdigit := hd
  · rw [joint_of_isLower hlower]
    simp only [opens, hword, decide_false, Bool.false_or, Faithful, false_and, not_false_eq_true, true_and,
      hlower, and_true, ite_not]
  · rw [joint_of_isDigit hdigit, if_pos]
    refine ⟨fun h => hword h.1, fun h => absurd hdigit ?_⟩
    rw [Text.not_isDigit_of_isLower h.2]
    decide

/-- At the beginning of a word a space comes before a letter and none before a digit. -/
theorem joint_underscore (hd : IsWordChar d) :
    joint '_' d = if Faithful '_' d then [' ', d] else [d] := by
  obtain hlower | hdigit := hd
  · rw [joint_of_isLower hlower, if_pos (by decide), if_pos]
    refine ⟨fun h => absurd h.2 ?_, fun h => absurd h.1 (by decide)⟩
    rw [Text.not_isDigit_of_isLower hlower]
    decide
  · rw [joint_of_isDigit hdigit, if_neg fun h => h.1 ⟨rfl, hdigit⟩]

theorem continued_eq_spaced_iff (h : Words name) :
    continued name = spaced name.tail ↔ name.IsChain Faithful := by
  -- where two characters are not faithful the texts differ at once, in one of them by a space
  induction h with
  | one hc => exact ⟨fun _ => .singleton _, fun _ => rfl⟩
  | @more c rest hc hrest ih =>
    cases rest with
    | nil => exact absurd rfl hrest.ne_nil
    | cons d rest =>
      have hd : IsWordChar d := hrest.head? d rfl
      have hspaced : spaced (d :: rest) = d :: spaced rest :=
        congrArg (· :: spaced rest) (if_neg hd.ne_underscore)
      rw [List.tail_cons] at ih ⊢
      rw [continued, hspaced, joint_of_word hc hd, List.isChain_cons_cons, ← ih]
      split
      case isTrue hspace => simp only [List.cons_append, List.nil_append, List.cons.injEq, true_and, hspace]
      case isFalse hspace => simp only [List.cons_append, List.cons.injEq, hd.ne_blank, false_and, hspace]
  | @next c rest hc hrest ih =>
    cases rest with
    | nil => exact absurd rfl hrest.ne_nil
    | cons d rest =>
      have hd : IsWordChar d := hrest.head? d rfl
      have hspaced : spaced ('_' :: d :: rest) = ' ' :: d :: spaced rest :=
        congrArg (' ' :: · :: spaced rest) (if_neg hd.ne_underscore)
      have hnone : joint c '_' = [] := if_pos rfl
      rw [List.tail_cons] at ih ⊢
      rw [continued, continued, hnone, List.nil_append, hspaced, joint_underscore hd, List.isChain_cons_cons,
        List.isChain_cons_cons, ← ih]
      split
      case isTrue hspace =>
        simp only [List.cons_append, List.nil_append, List.cons.injEq, true_and, hspace, faithful_underscore]
      case isFalse hspace =>
        simp only [List.cons_append, List.cons.injEq, hd.ne_blank.symm, false_and, hspace,
          faithful_underscore, and_false]

/-! ## Labels -/

theorem stem?_append (suffix stem : String) : stem? suffix (stem ++ suffix) = some stem := by
  have hends : suffix.toList.isSuffixOf (stem ++ suffix).toList = true := by
    rw [List.isSuffixOf_iff_suffix, String.toList_append]
    exact List.suffix_append _ _
  rw [stem?, if_pos hends, String.toList_append, List.length_append, String.length_toList,
    String.length_toList, Nat.add_sub_cancel, List.take_left' String.length_toList, String.ofList_toList]

theorem eq_append_of_stem? {suffix s stem : String} (h : stem? suffix s = some stem) :
    s = stem ++ suffix := by
  rw [stem?] at h
  obtain ⟨hends, hstem⟩ := Option.ite_none_right_eq_some.mp h
  obtain ⟨before, hbefore⟩ := List.isSuffixOf_iff_suffix.mp hends
  rw [← hbefore, List.length_append, String.length_toList, Nat.add_sub_cancel, List.take_left] at hstem
  rw [← Option.some.inj hstem, ← String.toList_inj, String.toList_append, String.toList_ofList, hbefore]

/-- A label is the sentence of what is kept of the name. -/
theorem exists_kept (strip : Bool) (name : String) :
    ∃ kept, Kept strip name kept ∧ humanize name strip = sentence kept := by
  rw [humanize]
  cases hstem : stem? "_id" name with
  | none =>
    refine ⟨name, .whole fun _ stem hname => ?_, rfl⟩
    rw [hname, stem?_append] at hstem
    cases hstem
  | some stem =>
    obtain rfl := eq_append_of_stem? hstem
    dsimp only
    split
    case isTrue hkept =>
      rw [Bool.and_eq_true, Bool.not_eq_true', String.isEmpty_eq_false_iff] at hkept
      obtain ⟨rfl, hne⟩ := hkept
      exact ⟨stem, .stem hne, rfl⟩
    case isFalse hkept =>
      -- the suffix stays on, since it was not asked to go or is all there is
      refine ⟨stem ++ "_id", .whole fun hstrip other hname => ?_, rfl⟩
      rw [← (String.append_left_inj _).mp hname]
      by_contra hne
      exact hkept (by rw [hstrip, String.isEmpty_eq_false_iff.mpr hne]; rfl)

theorem IsSnake.of_kept {strip : Bool} {name kept : String} (h : IsSnake name.toList)
    (hkept : Kept strip name kept) : IsSnake kept.toList := by
  cases hkept with
  | whole hname => exact h
  | stem hstem =>
    obtain ⟨hwords, hletter⟩ := h
    rw [String.toList_append] at hwords hletter
    have hrest : Words kept.toList := Words.before_underscore hwords
    refine ⟨hrest, ?_⟩
    rwa [List.head?_append_of_ne_nil _ hrest.ne_nil] at hletter

theorem label_eq_iff (h : IsSnake name) :
    label name = capitalized (spaced name) ↔ name.IsChain Faithful := by
  rw [← continued_eq_spaced_iff h.words]
  cases name with
  | nil => exact absurd rfl h.words.ne_nil
  | cons c rest =>
    have hc : c ≠ '_' := (h.words.head? c rfl).ne_underscore
    have hspaced : spaced (c :: rest) = c :: spaced rest := congrArg (· :: spaced rest) (if_neg hc)
    rw [hspaced, label, capitalized, List.tail_cons, List.cons.injEq, eq_self, true_and]

/-- The label of a name in snake case. It is the name, without `_id` at its end if that is asked for, with
spaces for underscores and a capital at the beginning exactly if, in what is kept of the name, no word begins
with a digit and no letter follows a digit. -/
theorem humanize_of_snake {name : String} (h : IsSnake name.toList) (strip : Bool) :
    ∃ kept, Kept strip name kept ∧ IsSnake kept.toList ∧
      humanize name strip = String.ofList (label kept.toList) ∧
      (humanize name strip = String.ofList (capitalized (spaced kept.toList)) ↔
        kept.toList.IsChain Faithful) := by
  obtain ⟨kept, hkept, hsentence⟩ := exists_kept strip name
  have hsnake : IsSnake kept.toList := h.of_kept hkept
  refine ⟨kept, hkept, hsnake, hsentence.trans (sentence_of_snake hsnake), ?_⟩
  rw [hsentence, sentence_of_snake hsnake, String.ofList_inj, label_eq_iff hsnake]

/-- What is kept of `disc2_id_id`. -/
theorem humanize_of_snake_disc :
    IsSnake "disc2_id_id".toList ∧ ∃ kept, Kept true "disc2_id_id" kept ∧ IsSnake kept.toList ∧
      humanize "disc2_id_id" true = String.ofList (label kept.toList) ∧
      (humanize "disc2_id_id" true = String.ofList (capitalized (spaced kept.toList)) ↔
        kept.toList.IsChain Faithful) := by
  have hsnake : IsSnake "disc2_id_id".toList := by
    have hid : Words ['i', 'd'] := .of_forall (by decide) (by decide)
    have hdisc : Words ['d', 'i', 's', 'c', '2'] := .of_forall (by decide) (by decide)
    refine ⟨hdisc.append (hid.append hid), ?_⟩
    rintro c ⟨⟩
    decide
  exact ⟨hsnake, humanize_of_snake hsnake true⟩

/-- A number is written right after the word before it, and a letter after a digit begins a word. -/
theorem digits_in_labels :
    (IsSnake "track_1".toList ∧ humanize "track_1" false = "Track1" ∧
      String.ofList (capitalized (spaced "track_1".toList)) = "Track 1") ∧
    IsSnake "a1b".toList ∧ humanize "a1b" false = "A1 b" ∧
      String.ofList (capitalized (spaced "a1b".toList)) = "A1b" := by
  have htrack : IsSnake "track_1".toList := by
    have hword : Words ['t', 'r', 'a', 'c', 'k'] := .of_forall (by decide) (by decide)
    refine ⟨hword.append (.one (by decide)), ?_⟩
    rintro c ⟨⟩
    decide
  have hletters : IsSnake "a1b".toList := by
    refine ⟨.of_forall (by decide) (by decide), ?_⟩
    rintro c ⟨⟩
    decide
  refine ⟨⟨htrack, ?_, ?_⟩, hletters, ?_, ?_⟩ <;> decide +kernel

end DottedQuery.Naming
