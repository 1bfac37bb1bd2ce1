/-
# DottedQuery.Proofs.Settings.Variables -- how a text with variables is divided

A text with variables is written in portions: text without a dollar sign, names in braces, of which the
last may be left open, names without braces, and dollar signs that no name follows. Text and names without
braces go on as long as they can, so that a text has one division into portions and no other
(`exists_division`, `Division.unique`). What a division is does not depend on how a text is scanned.

Expansion puts the portions back together, each reference replaced by the value of its variable and all
else as it is written; where a variable is not set it names the first such variable
(`expandVariables_of_division`). A value is put in and not looked at again: a dollar sign in it is no
portion of anything. So it makes no difference whether a text is expanded as a whole or portion by portion.
-/
import DottedQuery.Proofs.Success
import DottedQuery.Settings.Expansion
import Mathlib.Data.List.TakeWhile

namespace DottedQuery

/-- A portion of a text with variables. -/
inductive Portion where
  /-- Text without a dollar sign. -/
  | plain (text : List Char)
  /-- A name in braces. -/
  | braced (name : List Char)
  /-- A name after a brace that is never closed. -/
  | unclosed (name : List Char)
  /-- A name without braces. -/
  | bare (name : List Char)
  /-- A dollar sign that no name follows. -/
  | dollar
  deriving DecidableEq, Repr

namespace Portion

/-! ## Divisions -/

/-- How the portion is written. -/
def chars : Portion → List Char
  | plain text => text
  | braced name => '$' :: '\x7b' :: (name ++ ['\x7d'])
  | unclosed name => '$' :: '\x7b' :: name
  | bare name => '$' :: name
  | dollar => ['$']

/-- How portions are written one after the other. -/
def text (portions : List Portion) : String := String.ofList (portions.flatMap chars)

/-- A character of a name without braces. -/
def NameChar (c : Char) : Prop := Text.isAlphanumeric c = true ∨ c = '_'

/-- Whether the portion can stand before the rest of a text. Plain text and names without braces end only
where they have to, and an open brace is never closed. -/
def Fits : Portion → List Char → Prop
  | plain text, rest => text ≠ [] ∧ '$' ∉ text ∧ ∀ c ∈ rest.head?, c = '$'
  | braced name, _ => '\x7d' ∉ name
  | unclosed name, rest => '\x7d' ∉ name ∧ rest = []
  | bare name, rest => name ≠ [] ∧ (∀ c ∈ name, NameChar c) ∧ ∀ c ∈ rest.head?, ¬NameChar c
  | dollar, rest => ∀ c ∈ rest.head?, c ≠ '\x7b' ∧ ¬NameChar c

/-- The portions of a text in their order. -/
inductive Division : List Portion → List Char → Prop
  | nil : Division [] []
  | cons {p : Portion} {portions : List Portion} {rest : List Char} (hfits : p.Fits rest)
      (hrest : Division portions rest) : Division (p :: portions) (p.chars ++ rest)

variable {p : Portion} {portions before after : List Portion} {s rest name : List Char} {c : Char}

theorem isNameChar_iff : Fragment.isNameChar c = true ↔ NameChar c := by
  rw [Fragment.isNameChar, Bool.or_eq_true, decide_eq_true_iff, NameChar]

theorem not_nameChar_brace : ¬NameChar '\x7b' := by
  rw [← isNameChar_iff]
  decide +kernel

/-- What fits before a text fits before its beginning. -/
theorem Fits.of_append {more : List Char} (h : p.Fits (rest ++ more)) : p.Fits rest := by
  have hhead : ∀ c ∈ rest.head?, c ∈ (rest ++ more).head? := by
    intro c hc
    obtain ⟨tail, rfl⟩ := List.head?_eq_some_iff.mp hc
    rfl
  cases p with
  | plain text => exact ⟨h.1, h.2.1, fun c hc => h.2.2 c (hhead c hc)⟩
  | braced name => exact h
  | unclosed name => exact ⟨h.1, (List.append_eq_nil_iff.mp h.2).1⟩
  | bare name => exact ⟨h.1, h.2.1, fun c hc => h.2.2 c (hhead c hc)⟩
  | dollar => exact fun c hc => h c (hhead c hc)

theorem chars_ne_nil (h : p.Fits rest) : p.chars ≠ [] := by
  cases p with
  | plain text => exact h.1
  | braced | unclosed | bare | dollar => exact List.cons_ne_nil _ _

/-! ## The first portion -/

/-- A stretch that cannot go on is all that is taken of a text. -/
theorem takeWhile_append_stop {test : Char → Bool} (hname : ∀ c ∈ name, test c = true)
    (hrest : ∀ c ∈ rest.head?, test c = false) : (name ++ rest).takeWhile test = name := by
  have hstop : rest.takeWhile test = [] := by
    cases rest with
    | nil => rfl
    | cons c rest => rw [List.takeWhile_cons, hrest c rfl, if_neg Bool.false_ne_true]
  rw [List.takeWhile_append_of_pos hname, hstop, List.append_nil]

/-- Every text begins with a stretch that cannot go on. -/
theorem exists_stretch (test : Char → Bool) (s : List Char) : ∃ stretch rest, s = stretch ++ rest ∧
    (∀ c ∈ stretch, test c = true) ∧ ∀ c ∈ rest.head?, test c = false := by
  refine ⟨s.takeWhile test, s.dropWhile test, List.takeWhile_append_dropWhile.symm,
    fun c hc => List.mem_takeWhile_imp hc, fun c hc => ?_⟩
  have hnot := List.head?_dropWhile_not test s
  rw [Option.mem_def.mp hc] at hnot
  simpa using hnot

/-- The portion of a text that begins with a dollar sign, by what follows it. -/
def reference : List Char → Portion
  | '\x7b' :: rest =>
    if '\x7d' ∈ rest then braced (rest.takeWhile (· != '\x7d')) else unclosed rest
  | rest =>
    if rest.takeWhile Fragment.isNameChar = [] then dollar
    else bare (rest.takeWhile Fragment.isNameChar)

/-- The first portion of a text. -/
def first : List Char → Portion
  | '$' :: rest => reference rest
  | s => plain (s.takeWhile (· != '$'))

theorem reference_of_head? (h : ∀ c ∈ rest.head?, c ≠ '\x7b') : reference rest =
    if rest.takeWhile Fragment.isNameChar = [] then dollar
    else bare (rest.takeWhile Fragment.isNameChar) := by
  unfold reference
  split
  · exact absurd rfl (h _ rfl)
  · rfl

theorem first_of_head? (h : ∀ c ∈ s.head?, c ≠ '$') : first s = plain (s.takeWhile (· != '$')) := by
  unfold first
  split
  · exact absurd rfl (h _ rfl)
  · rfl

theorem takeWhile_ne_append (h : c ∉ name) (hrest : ∀ d ∈ rest.head?, d = c) :
    (name ++ rest).takeWhile (· != c) = name := by
  refine takeWhile_append_stop (fun d hd => ?_) fun d hd => ?_
  · exact bne_iff_ne.mpr fun heq => h (heq ▸ hd)
  · rw [hrest d hd, bne_self_eq_false]

theorem isNameChar_eq_false_iff : Fragment.isNameChar c = false ↔ ¬NameChar c := by
  rw [← isNameChar_iff, Bool.not_eq_true]

/-- A name without braces does not begin with one. -/
theorem head?_ne_brace (hne : name ≠ []) (hname : ∀ c ∈ name, NameChar c) :
    ∀ c ∈ (name ++ rest).head?, c ≠ '\x7b' := by
  rintro c hc rfl
  rw [List.head?_append_of_ne_nil _ hne] at hc
  exact not_nameChar_brace (hname _ (List.mem_of_mem_head? hc))

/-- A text that is divided begins with the first portion of the division. -/
theorem first_chars_append (h : p.Fits rest) : first (p.chars ++ rest) = p := by
  cases p with
  | plain text =>
    obtain ⟨hne, hdollar, hrest⟩ := h
    rw [chars, first_of_head?, takeWhile_ne_append hdollar hrest]
    intro c hc
    rw [List.head?_append_of_ne_nil _ hne] at hc
    exact fun heq => hdollar (heq ▸ List.mem_of_mem_head? hc)
  | braced name =>
    have hmem : '\x7d' ∈ name ++ '\x7d' :: rest := List.mem_append_right _ List.mem_cons_self
    have htake : (name ++ '\x7d' :: rest).takeWhile (· != '\x7d') = name :=
      takeWhile_ne_append h fun d hd => (Option.some.inj hd).symm
    rw [chars, List.cons_append, List.cons_append, List.append_assoc, List.singleton_append]
    show (if '\x7d' ∈ name ++ '\x7d' :: rest then _ else _) = _
    rw [if_pos hmem, htake]
  | unclosed name =>
    obtain ⟨hname, rfl⟩ := h
    rw [List.append_nil]
    exact if_neg hname
  | bare name =>
    obtain ⟨hne, hname, hrest⟩ := h
    have htake : (name ++ rest).takeWhile Fragment.isNameChar = name :=
      takeWhile_append_stop (fun d hd => isNameChar_iff.mpr (hname d hd)) fun d hd =>
        isNameChar_eq_false_iff.mpr (hrest d hd)
    rw [chars, List.cons_append]
    show reference (name ++ rest) = _
    rw [reference_of_head? (head?_ne_brace hne hname), htake, if_neg hne]
  | dollar =>
    have htake : ([] ++ rest).takeWhile Fragment.isNameChar = [] :=
      takeWhile_append_stop nofun fun d hd => isNameChar_eq_false_iff.mpr (h d hd).2
    rw [List.nil_append] at htake
    show reference rest = _
    rw [reference_of_head? fun d hd => (h d hd).1, htake, if_pos rfl]

/-- Every text but the empty one begins with a portion. -/
theorem exists_portion (h : s ≠ []) :
    ∃ (p : Portion) (rest : List Char), p.Fits rest ∧ s = p.chars ++ rest := by
  by_cases hdollar : s.head? = some '$'
  · obtain ⟨after, rfl⟩ := List.head?_eq_some_iff.mp hdollar
    by_cases hbrace : after.head? = some '\x7b'
    · obtain ⟨after, rfl⟩ := List.head?_eq_some_iff.mp hbrace
      by_cases hclosed : '\x7d' ∈ after
      · obtain ⟨name, rest, rfl, hname⟩ := List.eq_append_cons_of_mem hclosed
        exact ⟨braced name, rest, hname, by simp [chars]⟩
      · exact ⟨unclosed after, [], ⟨hclosed, rfl⟩, by simp [chars]⟩
    · obtain ⟨name, rest, rfl, hname, hrest⟩ := exists_stretch Fragment.isNameChar after
      have hstop : ∀ c ∈ rest.head?, ¬NameChar c := fun c hc => isNameChar_eq_false_iff.mp (hrest c hc)
      by_cases hne : name = []
      · subst hne
        exact ⟨dollar, rest, fun c hc => ⟨fun heq => hbrace (heq ▸ hc), hstop c hc⟩, rfl⟩
      · exact ⟨bare name, rest, ⟨hne, fun c hc => isNameChar_iff.mp (hname c hc), hstop⟩, rfl⟩
  · obtain ⟨text, rest, rfl, htext, hrest⟩ := exists_stretch (· != '$') s
    have hend : ∀ c ∈ rest.head?, c = '$' := fun c hc => by simpa using hrest c hc
    refine ⟨plain text, rest, ⟨?_, fun hmem => ?_, hend⟩, rfl⟩
    · rintro rfl
      -- the rest would be the whole text, and begin with a dollar sign
      obtain ⟨c, tail, rfl⟩ := List.exists_cons_of_ne_nil h
      exact hdollar (congrArg some (hend c rfl))
    · simpa using htext '$' hmem

theorem exists_division (s : List Char) : ∃ portions, Division portions s := by
  induction hn : s.length using Nat.strong_induction_on generalizing s with
  | _ n ih =>
    by_cases hs : s = []
    · exact ⟨[], hs ▸ .nil⟩
    · obtain ⟨p, rest, hfits, rfl⟩ := exists_portion hs
      have hshorter : rest.length < n := by
        have hpos := List.length_pos_iff.mpr (chars_ne_nil hfits)
        rw [List.length_append] at hn
        omega
      obtain ⟨portions, hrest⟩ := ih rest.length hshorter rest rfl
      exact ⟨p :: portions, .cons hfits hrest⟩

namespace Division

theorem cons_iff : Division (p :: portions) s ↔
    ∃ rest, p.Fits rest ∧ s = p.chars ++ rest ∧ Division portions rest := by
  constructor
  · intro h
    cases h with
    | cons hfits hrest => exact ⟨_, hfits, rfl, hrest⟩
  · rintro ⟨rest, hfits, rfl, hrest⟩
    exact .cons hfits hrest

/-- Only the empty text has no portions, and any other division begins with the first portion. -/
theorem eq_first_cons (h : Division portions s) (hs : s ≠ []) :
    ∃ others, portions = first s :: others := by
  cases h with
  | nil => exact absurd rfl hs
  | cons hfits hrest =>
    rw [first_chars_append hfits]
    exact ⟨_, rfl⟩

theorem eq_nil (h : Division portions []) : portions = [] := by
  cases portions with
  | nil => rfl
  | cons p portions =>
    obtain ⟨rest, hfits, hs, -⟩ := cons_iff.mp h
    exact absurd (List.append_eq_nil_iff.mp hs.symm).1 (chars_ne_nil hfits)

/-- A text is divided in one way. -/
theorem unique (h : Division portions s) {others : List Portion} (h' : Division others s) :
    others = portions := by
  induction h generalizing others with
  | nil => exact h'.eq_nil
  | cons hfits hrest ih =>
    obtain ⟨tail, rfl⟩ := h'.eq_first_cons (List.append_ne_nil_of_left_ne_nil (chars_ne_nil hfits) _)
    rw [first_chars_append hfits] at h' ⊢
    obtain ⟨rest, -, hs, htail⟩ := cons_iff.mp h'
    have hrest' := List.append_cancel_left hs
    exact congrArg _ (ih (hrest' ▸ htail))

theorem flatMap_chars (h : Division portions s) : portions.flatMap chars = s := by
  induction h with
  | nil => rfl
  | cons hfits hrest ih => rw [List.flatMap_cons, ih]

theorem append_left (h : Division (before ++ after) s) : Division before (before.flatMap chars) := by
  induction before generalizing s with
  | nil => exact .nil
  | cons p before ih =>
    rw [List.cons_append] at h
    obtain ⟨rest, hfits, -, hrest⟩ := cons_iff.mp h
    rw [← hrest.flatMap_chars, List.flatMap_append] at hfits
    exact .cons hfits.of_append (ih hrest)

theorem append_right (h : Division (before ++ after) s) : Division after (after.flatMap chars) := by
  induction before generalizing s with
  | nil =>
    rw [List.nil_append] at h
    rwa [h.flatMap_chars]
  | cons p before ih =>
    obtain ⟨rest, -, -, hrest⟩ := cons_iff.mp h
    exact ih hrest

end Division

/-! ## Scanning -/

/-- The fragments of a portion: one for each character of plain text. -/
def fragments : Portion → List Fragment
  | plain text => text.map .literal
  | braced name | unclosed name | bare name => [.reference (String.ofList name)]
  | dollar => [.literal '$']

theorem bracedName_append (h : '\x7d' ∉ name) :
    Fragment.bracedName (name ++ '\x7d' :: rest) = (name, rest) := by
  induction name with
  | nil => simp [Fragment.bracedName]
  | cons c name ih =>
    obtain ⟨hc, hname⟩ := not_or.mp (mt List.mem_cons.mpr h)
    simp [Fragment.bracedName, Ne.symm hc, ih hname]

theorem bracedName_unclosed (h : '\x7d' ∉ name) : Fragment.bracedName name = (name, []) := by
  induction name with
  | nil => rfl
  | cons c name ih =>
    obtain ⟨hc, hname⟩ := not_or.mp (mt List.mem_cons.mpr h)
    simp [Fragment.bracedName, Ne.symm hc, ih hname]

theorem bareName_append (hname : ∀ c ∈ name, NameChar c) (hrest : ∀ c ∈ rest.head?, ¬NameChar c) :
    Fragment.bareName (name ++ rest) = (name, rest) := by
  induction name with
  | nil =>
    cases rest with
    | nil => rfl
    | cons c rest => simp [Fragment.bareName, isNameChar_eq_false_iff.mpr (hrest c rfl)]
  | cons c name ih =>
    obtain ⟨hc, hname⟩ := List.forall_mem_cons.mp hname
    simp [Fragment.bareName, isNameChar_iff.mpr hc, ih hname]

theorem ofChars_cons (h : c ≠ '$') (s : List Char) :
    Fragment.ofChars (c :: s) = .literal c :: Fragment.ofChars s := by
  rw [Fragment.ofChars.eq_def]
  exact if_pos h

theorem ofChars_brace (s : List Char) : Fragment.ofChars ('$' :: '\x7b' :: s) =
    .reference (String.ofList (Fragment.bracedName s).1) :: Fragment.ofChars (Fragment.bracedName s).2 := by
  rw [Fragment.ofChars.eq_def]
  rfl

/-- After a dollar sign and no brace it matters whether there is a name. -/
theorem ofChars_dollar (hname : ∀ c ∈ name, NameChar c) (hrest : ∀ c ∈ rest.head?, ¬NameChar c)
    (hbrace : ∀ c ∈ (name ++ rest).head?, c ≠ '\x7b') : Fragment.ofChars ('$' :: (name ++ rest)) =
      (if name = [] then .literal '$' else .reference (String.ofList name)) :: Fragment.ofChars rest := by
  have hscan := bareName_append hname hrest
  generalize hs : name ++ rest = s at hbrace hscan
  rw [Fragment.ofChars.eq_def]
  cases s with
  | nil =>
    obtain ⟨rfl, rfl⟩ := List.append_eq_nil_iff.mp hs
    simp [Fragment.ofChars]
  | cons d tail =>
    have hd := hbrace d rfl
    by_cases hne : name = []
    · have hrest : rest = d :: tail := by rwa [hne, List.nil_append] at hs
      simp [hd, hscan, hne, hrest]
    · simp [hd, hscan, hne]

/-- A portion is scanned into its fragments, whatever it stands before. -/
theorem ofChars_append (h : p.Fits rest) :
    Fragment.ofChars (p.chars ++ rest) = p.fragments ++ Fragment.ofChars rest := by
  cases p with
  | plain text =>
    obtain ⟨-, hdollar, -⟩ := h
    show Fragment.ofChars (text ++ rest) = text.map .literal ++ _
    induction text with
    | nil => rfl
    | cons c text ih =>
      obtain ⟨hc, htext⟩ := not_or.mp (mt List.mem_cons.mpr hdollar)
      rw [List.cons_append, ofChars_cons (Ne.symm hc), ih htext, List.map_cons, List.cons_append]
  | braced name =>
    rw [chars, List.cons_append, List.cons_append, List.append_assoc, List.singleton_append, ofChars_brace,
      bracedName_append h]
    rfl
  | unclosed name =>
    obtain ⟨hname, rfl⟩ := h
    rw [chars, List.append_nil, ofChars_brace, bracedName_unclosed hname]
    rfl
  | bare name =>
    obtain ⟨hne, hname, hrest⟩ := h
    rw [chars, List.cons_append, ofChars_dollar hname hrest (head?_ne_brace hne hname), if_neg hne]
    rfl
  | dollar =>
    have hscan := @ofChars_dollar rest [] nofun (fun c hc => (h c hc).2) fun c hc => (h c hc).1
    rwa [if_pos rfl] at hscan

theorem ofChars_of_division (h : Division portions s) :
    Fragment.ofChars s = portions.flatMap fragments := by
  induction h with
  | nil => rw [Fragment.ofChars, List.flatMap_nil]
  | cons hfits _ ih => rw [ofChars_append hfits, ih, List.flatMap_cons]

/-! ## Expansion -/

variable {environment : Environment}

/-- The variable that the portion refers to. -/
def name? : Portion → Option String
  | braced name | unclosed name | bare name => some (String.ofList name)
  | plain _ | dollar => none

/-- What the portion stands for: the value of its variable, if that is set, or itself. -/
def meaning? (environment : Environment) (p : Portion) : Option (List Char) :=
  match p.name? with
  | some name => (environment name).map String.toList
  | none => some p.chars

/-- The characters for fragments, or the first variable that is not set. -/
def expandAll (environment : Environment) (fragments : List Fragment) : Except String (List Char) :=
  return (← fragments.mapM (Fragment.expand environment)).flatten

theorem expandVariables_eq (s : String) : expandVariables environment s =
    (expandAll environment (Fragment.ofChars s.toList)).map String.ofList := by
  rw [expandVariables, expandAll]
  cases (Fragment.ofChars s.toList).mapM (Fragment.expand environment) with
  | error name => rfl
  | ok texts => rfl

theorem expandAll_append (xs ys : List Fragment) : expandAll environment (xs ++ ys) =
    do return (← expandAll environment xs) ++ (← expandAll environment ys) := by
  simp [expandAll, List.mapM_append]

theorem expandAll_literals (text : List Char) : expandAll environment (text.map .literal) = .ok text := by
  induction text with
  | nil => rfl
  | cons c text ih =>
    rw [List.map_cons, ← List.singleton_append, expandAll_append, ih]
    rfl

/-- What becomes of a portion. -/
def outcome (environment : Environment) (p : Portion) : Except String (List Char) :=
  match p.name? with
  | none => .ok p.chars
  | some name =>
    match environment name with
    | some value => .ok value.toList
    | none => .error name

theorem outcome_eq_ok {text : List Char} :
    p.outcome environment = .ok text ↔ p.meaning? environment = some text := by
  rw [outcome, meaning?]
  cases p.name? with
  | none => exact ⟨fun h => congrArg some (Except.ok.inj h), fun h => congrArg _ (Option.some.inj h)⟩
  | some name => cases hvalue : environment name <;> simp [hvalue]

theorem outcome_eq_error {name : String} :
    p.outcome environment = .error name ↔ p.name? = some name ∧ environment name = none := by
  rw [outcome]
  cases p.name? with
  | none => exact iff_of_false nofun fun h => nomatch h.1
  | some referred =>
    simp only [Option.some.injEq]
    cases hvalue : environment referred with
    | none =>
      simp only [Except.error.injEq]
      exact ⟨fun h => ⟨h, h ▸ hvalue⟩, And.left⟩
    | some value =>
      refine iff_of_false nofun ?_
      rintro ⟨rfl, hnone⟩
      rw [hvalue] at hnone
      cases hnone

theorem expandAll_fragments (p : Portion) : expandAll environment p.fragments = p.outcome environment := by
  have hreference (name : String) : expandAll environment [.reference name] =
      match environment name with
      | some value => .ok value.toList
      | none => .error name := by
    simp only [expandAll, Fragment.expand, List.mapM_cons, List.mapM_nil]
    cases environment name with
    | none => rfl
    | some value => simp
  cases p with
  | plain text => exact expandAll_literals text
  | braced name | unclosed name | bare name => exact hreference _
  | dollar => rfl

/-- Portions are expanded one after the other. -/
theorem expandAll_flatMap (portions : List Portion) :
    expandAll environment (portions.flatMap fragments) =
      (portions.mapM (outcome environment)).map List.flatten := by
  induction portions with
  | nil => rfl
  | cons p portions ih =>
    rw [List.flatMap_cons, expandAll_append, expandAll_fragments, ih, List.mapM_cons]
    cases p.outcome environment with
    | error name => rfl
    | ok text =>
      cases portions.mapM (outcome environment) with
      | error name => rfl
      | ok texts => rfl

theorem expandVariables_of_portions {s : String} (h : Division portions s.toList) :
    expandVariables environment s =
      (portions.mapM (outcome environment)).map fun texts => String.ofList texts.flatten := by
  rw [expandVariables_eq, ofChars_of_division h, expandAll_flatMap]
  cases portions.mapM (outcome environment) with
  | error name => rfl
  | ok texts => rfl

/-- It makes no difference whether a text is expanded as a whole or in two parts. -/
theorem expandVariables_append {s : String} (h : Division (before ++ after) s.toList) :
    expandVariables environment s = do
      return (← expandVariables environment (text before)) ++
        (← expandVariables environment (text after)) := by
  have hbefore : Division before (text before).toList := by
    rw [text, String.toList_ofList]
    exact h.append_left
  have hafter : Division after (text after).toList := by
    rw [text, String.toList_ofList]
    exact h.append_right
  rw [expandVariables_of_portions h, expandVariables_of_portions hbefore,
    expandVariables_of_portions hafter, List.mapM_append]
  cases before.mapM (outcome environment) with
  | error name => rfl
  | ok texts =>
    cases after.mapM (outcome environment) with
    | error name => rfl
    | ok others =>
      show Except.ok (String.ofList (texts ++ others).flatten) = _
      rw [List.flatten_append, String.ofList_append]
      rfl

/-- A text is divided into portions in one way. Expansion succeeds exactly if every portion stands for
something, with all of that in order; it fails exactly with the first variable that is referred to and not
set; and it may be done in two parts, wherever one portion ends and another begins. -/
theorem expandVariables_of_division (s : String) :
    ∃ portions,
      Division portions s.toList ∧ (∀ others, Division others s.toList → others = portions) ∧
      ∀ environment,
        (∀ result, expandVariables environment s = .ok result ↔
          ∃ texts, List.Forall₂ (fun p text => p.meaning? environment = some text) portions texts ∧
            result = String.ofList texts.flatten) ∧
        (∀ name, expandVariables environment s = .error name ↔
          ∃ before p after, portions = before ++ p :: after ∧
            (∀ q ∈ before, ∃ text, q.meaning? environment = some text) ∧
            p.name? = some name ∧ environment name = none) ∧
        ∀ before after, portions = before ++ after →
          s = text before ++ text after ∧
            expandVariables environment s = do
              return (← expandVariables environment (text before)) ++
                (← expandVariables environment (text after)) := by
  obtain ⟨portions, hportions⟩ := exists_division s.toList
  refine ⟨portions, hportions, fun others hothers => hportions.unique hothers, fun environment => ?_⟩
  rw [expandVariables_of_portions hportions]
  refine ⟨fun result => ?_, fun name => ?_, ?_⟩
  · simp only [map_eq_ok, mapM_eq_ok, outcome_eq_ok, @eq_comm _ result]
  · simp only [map_eq_error, mapM_eq_error, outcome_eq_ok, outcome_eq_error]
  · rintro before after rfl
    refine ⟨?_, ?_⟩
    · rw [text, text, ← String.ofList_append, ← List.flatMap_append, hportions.flatMap_chars,
        String.ofList_toList]
    · rw [← expandVariables_of_portions hportions, expandVariables_append hportions]

/-- Two variables, of which one has a dollar sign in its value. -/
def homeAndData : Environment
  | "home" => some "/srv/$data"
  | "data" => some "a.db"
  | _ => none

/-- A dollar sign before a reference stands for itself, one in a value refers to nothing, and the last brace
may be left open. -/
theorem expandVariables_of_division_paths :
    Division [.dollar, .bare "home".toList, .plain "/".toList, .unclosed "data".toList]
        "$$home/$\x7bdata".toList ∧
      expandVariables homeAndData "$$home/$\x7bdata" = .ok "$/srv/$data/a.db" := by
  have hname : ¬NameChar '$' ∧ ¬NameChar '/' ∧ ∀ c ∈ "home".toList, NameChar c := by
    simp only [← isNameChar_iff]
    refine ⟨?_, ?_, List.all_eq_true.mp ?_⟩ <;> decide +kernel
  have hdivision : Division [.dollar, .bare "home".toList, .plain "/".toList, .unclosed "data".toList]
      "$$home/$\x7bdata".toList := by
    refine Division.cons_iff.mpr ⟨"$home/$\x7bdata".toList, ?_, by decide, ?_⟩
    · rintro c ⟨⟩
      exact ⟨by decide, hname.1⟩
    refine Division.cons_iff.mpr ⟨"/$\x7bdata".toList, ⟨by decide, hname.2.2, ?_⟩, by decide, ?_⟩
    · rintro c ⟨⟩
      exact hname.2.1
    refine Division.cons_iff.mpr ⟨"$\x7bdata".toList, ⟨by decide, by decide, ?_⟩, by decide, ?_⟩
    · rintro c ⟨⟩
      rfl
    exact Division.cons_iff.mpr ⟨[], ⟨by decide, rfl⟩, by decide, .nil⟩
  obtain ⟨portions, -, hunique, hexpansion⟩ := expandVariables_of_division "$$home/$\x7bdata"
  obtain rfl := hunique _ hdivision
  refine ⟨hdivision, ((hexpansion homeAndData).1 _).mpr ⟨["$".toList, "/srv/$data".toList, "/".toList,
    "a.db".toList], ?_, by decide⟩⟩
  exact .cons (by decide) (.cons (by decide) (.cons (by decide) (.cons (by decide) .nil)))

end Portion

end DottedQuery
