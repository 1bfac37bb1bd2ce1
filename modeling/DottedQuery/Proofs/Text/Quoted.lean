/-
# DottedQuery.Proofs.Text.Quoted -- what a quoted text keeps and what it keeps out

Between its quotes a text is written character by character. What is written for a character can be told
apart from all that may follow it (`unescape?_escapeChar`), since a backslash always begins an escape and a
number in braces ends at its brace. So the quoted text determines the text (`quoted_inj`), and no two texts
are written alike.

Of the characters that would end a line or command a terminal none is written as it is: all of them are
hidden, and hidden characters are spelled (`breaksLine_of_mem_quoted`).
-/
import DottedQuery.Text.Quoted
import Mathlib.Data.List.Basic
import Mathlib.Data.Nat.Digits.Defs
import Mathlib.Tactic.SplitIfs

namespace DottedQuery.Text

/-! ## Numbers in base sixteen -/

/-- The last digit of a number comes after the digits of the rest. -/
theorem hexText_eq (n : Nat) :
    hexText n = if n < 16 then [Nat.digitChar n] else hexText (n / 16) ++ [Nat.digitChar (n % 16)] :=
  Nat.toDigits_eq_if (by decide)

theorem hexNumber?_concat (digits : List Char) (c : Char) : hexNumber? (digits ++ [c]) =
    do return (← hexNumber? digits) * 16 + (← hexValue? c) := by
  rw [hexNumber?, List.foldl_append]
  rfl

theorem hexValue?_digitChar : ∀ n < 16, hexValue? (Nat.digitChar n) = some n := by
  decide

/-- The digits of a number spell it. -/
theorem hexNumber?_hexText (n : Nat) : hexNumber? (hexText n) = some n := by
  induction n using Nat.strong_induction_on with
  | _ n ih =>
    rw [hexText_eq]
    split
    · rename_i hsmall
      show hexNumber? ([] ++ [Nat.digitChar n]) = some n
      rw [hexNumber?_concat, hexValue?_digitChar n hsmall]
      simp [hexNumber?]
    · rename_i hlarge
      rw [hexNumber?_concat, ih (n / 16) (by omega), hexValue?_digitChar _ (by omega)]
      show some (n / 16 * 16 + n % 16) = some n
      rw [Nat.div_add_mod']

theorem exists_digitChar {n : Nat} {c : Char} (h : c ∈ hexText n) : ∃ k < 16, c = Nat.digitChar k := by
  induction n using Nat.strong_induction_on with
  | _ n ih =>
    rw [hexText_eq] at h
    split at h
    · exact ⟨n, ‹_›, List.mem_singleton.mp h⟩
    · rcases List.mem_append.mp h with h | h
      · exact ih (n / 16) (by omega) h
      · exact ⟨n % 16, by omega, List.mem_singleton.mp h⟩

/-! ## How characters are written -/

/-- Letters that stand for characters after a backslash. -/
def letters : List (Char × Char) :=
  [('"', '"'), ('\\', '\\'), ('n', '\n'), ('t', '\t'), ('r', '\r'), ('0', '\x00')]

variable {c : Char} {s t : List Char}

/-- A character is written as a letter after a backslash, as its number, or as it is. -/
theorem escapeChar_cases (c : Char) :
    (∃ letter, (letter, c) ∈ letters ∧ escapeChar c = ['\\', letter]) ∨
      escapeChar c = '\\' :: 'u' :: '\x7b' :: (hexText c.toNat ++ ['\x7d']) ∨
      (isHidden c = false ∧ c ≠ '\\' ∧ escapeChar c = [c]) := by
  unfold escapeChar
  split_ifs with hquote hbackslash hline htab hreturn hnull hhidden
  · exact Or.inl ⟨'"', by simp [letters, hquote], rfl⟩
  · exact Or.inl ⟨'\\', by simp [letters, hbackslash], rfl⟩
  · exact Or.inl ⟨'n', by simp [letters, hline], rfl⟩
  · exact Or.inl ⟨'t', by simp [letters, htab], rfl⟩
  · exact Or.inl ⟨'r', by simp [letters, hreturn], rfl⟩
  · exact Or.inl ⟨'0', by simp [letters, hnull], rfl⟩
  · exact Or.inr (Or.inl rfl)
  · exact Or.inr (Or.inr ⟨Bool.not_eq_true _ ▸ hhidden, hbackslash, rfl⟩)

/-! ## Reading back -/

/-- The character after a backslash, and the rest. -/
def escape? : List Char → Option (Char × List Char)
  | 'u' :: '\x7b' :: rest =>
    (hexNumber? (rest.takeWhile (· != '\x7d'))).map fun n =>
      (Char.ofNat n, (rest.dropWhile (· != '\x7d')).tail)
  | letter :: rest => (letters.lookup letter).map (·, rest)
  | [] => none

/-- The first character of what stands between quotes, and the rest. -/
def unescape? : List Char → Option (Char × List Char)
  | '\\' :: rest => escape? rest
  | c :: rest => some (c, rest)
  | [] => none

/-- A number ends at its brace. -/
theorem escape?_hexText (n : Nat) (rest : List Char) :
    escape? ('u' :: '\x7b' :: (hexText n ++ '\x7d' :: rest)) = some (Char.ofNat n, rest) := by
  have hbrace : ∀ k < 16, (Nat.digitChar k != '\x7d') = true := by decide
  have hdigits : ∀ d ∈ hexText n, (d != '\x7d') = true := by
    intro d hd
    obtain ⟨k, hk, rfl⟩ := exists_digitChar hd
    exact hbrace k hk
  simp [escape?, List.takeWhile_append_of_pos hdigits, List.dropWhile_append_of_pos hdigits,
    hexNumber?_hexText]

/-- What is written for a character is read back as it, whatever follows. -/
theorem unescape?_escapeChar (c : Char) (rest : List Char) :
    unescape? (escapeChar c ++ rest) = some (c, rest) := by
  obtain ⟨letter, hletter, hchars⟩ | hchars | ⟨-, hbackslash, hchars⟩ := escapeChar_cases c
  · have hlookup : ∀ pair ∈ letters, pair.1 ≠ 'u' ∧ letters.lookup pair.1 = some pair.2 := by decide
    obtain ⟨hu, hfound⟩ := hlookup _ hletter
    rw [hchars]
    show escape? (letter :: rest) = _
    unfold escape?
    split
    · rename_i heq
      exact absurd (List.cons.inj heq).1 hu
    · rename_i heq
      obtain ⟨rfl, rfl⟩ := List.cons.inj heq
      rw [hfound]
      rfl
    · rename_i heq
      cases heq
  · rw [hchars]
    show escape? ('u' :: '\x7b' :: (hexText c.toNat ++ ['\x7d'] ++ rest)) = _
    rw [List.append_assoc]
    exact (escape?_hexText c.toNat rest).trans (by rw [Char.ofNat_toNat])
  · rw [hchars]
    show unescape? (c :: rest) = _
    unfold unescape?
    split
    · rename_i heq
      exact absurd (List.cons.inj heq).1 hbackslash
    · rename_i heq
      obtain ⟨rfl, rfl⟩ := List.cons.inj heq
      rfl
    · rename_i heq
      cases heq

/-- What is written between quotes determines what is quoted. -/
theorem flatMap_escapeChar_inj : s.flatMap escapeChar = t.flatMap escapeChar ↔ s = t := by
  refine ⟨fun h => ?_, fun h => h ▸ rfl⟩
  induction s generalizing t with
  | nil =>
    cases t with
    | nil => rfl
    | cons d t =>
      have hread := unescape?_escapeChar d (t.flatMap escapeChar)
      rw [← List.flatMap_cons, ← h] at hread
      cases hread
  | cons c s ih =>
    have hread := unescape?_escapeChar c (s.flatMap escapeChar)
    rw [← List.flatMap_cons, h] at hread
    cases t with
    | nil => cases hread
    | cons d t =>
      rw [List.flatMap_cons, unescape?_escapeChar] at hread
      obtain ⟨rfl, hrest⟩ := Prod.mk.inj (Option.some.inj hread)
      rw [ih hrest.symm]

theorem quoted_inj {s t : String} : quoted s = quoted t ↔ s = t := by
  rw [quoted, quoted, String.ofList_inj, quotedChars, quotedChars, List.cons_inj_right,
    List.append_cancel_right_eq, flatMap_escapeChar_inj, String.toList_inj]

/-! ## Characters that are never written -/

/-- Control characters, and the separators of lines and of paragraphs. No other character ends a line. -/
def breaksLine (c : Char) : Bool :=
  c.toNat < 0x20 || (0x7F ≤ c.toNat && c.toNat < 0xA0) || (0x2028 ≤ c.toNat && c.toNat ≤ 0x2029)

/-- Whatever breaks a line is hidden. -/
theorem isHidden_of_breaksLine (h : breaksLine c = true) : isHidden c = true := by
  have hlisted : ∀ range ∈ [(0x0, 0x1F), (0x7F, 0xA0), (0x2028, 0x202F)], range ∈ hidden := by
    decide +kernel
  simp only [breaksLine, Bool.or_eq_true, Bool.and_eq_true, decide_eq_true_eq] at h
  obtain (h | h) | h := h
  · exact Ranges.holds_of_mem (hlisted (0x0, 0x1F) (by decide)) (Nat.zero_le _) (by omega)
  · exact Ranges.holds_of_mem (hlisted (0x7F, 0xA0) (by decide)) h.1 (by omega)
  · exact Ranges.holds_of_mem (hlisted (0x2028, 0x202F) (by decide)) h.1 (by omega)

theorem breaksLine_of_mem_escapeChar {d : Char} (h : d ∈ escapeChar c) : breaksLine d = false := by
  obtain ⟨letter, hletter, hchars⟩ | hchars | ⟨hvisible, -, hchars⟩ := escapeChar_cases c
  · have hletters : ∀ pair ∈ letters, ['\\', pair.1].Forall (breaksLine · = false) := by decide
    rw [hchars] at h
    exact List.forall_iff_forall_mem.mp (hletters _ hletter) d h
  · have hsigns : ∀ d ∈ ['\\', 'u', '\x7b', '\x7d'], breaksLine d = false :=
      List.forall_iff_forall_mem.mp (by decide)
    have hdigits : ∀ k < 16, breaksLine (Nat.digitChar k) = false := by decide
    rw [hchars] at h
    simp only [List.mem_cons, List.mem_append, List.not_mem_nil, or_false] at h
    obtain rfl | rfl | rfl | hdigit | rfl := h
    · exact hsigns _ (by decide)
    · exact hsigns _ (by decide)
    · exact hsigns _ (by decide)
    · obtain ⟨k, hk, rfl⟩ := exists_digitChar hdigit
      exact hdigits k hk
    · exact hsigns _ (by decide)
  · rw [hchars] at h
    rw [List.mem_singleton.mp h, ← Bool.not_eq_true]
    intro hbreaks
    rw [isHidden_of_breaksLine hbreaks] at hvisible
    cases hvisible

/-- A quoted text is written on one line. -/
theorem breaksLine_of_mem_quoted {s : String} (h : c ∈ (quoted s).toList) : breaksLine c = false := by
  have hquote : breaksLine '"' = false := by decide
  rw [quoted, String.toList_ofList, quotedChars, List.mem_cons, List.mem_append, List.mem_singleton] at h
  obtain rfl | h | rfl := h
  · exact hquote
  · obtain ⟨d, -, hd⟩ := List.mem_flatMap.mp h
    exact breaksLine_of_mem_escapeChar hd
  · exact hquote

end DottedQuery.Text
