/-
# DottedQuery.Proofs.Json.RoundTrip -- values written as JSON and read back

A value is written by one function and read by another, and the two have nothing in common but the format.
Null, truth values, integers and texts come back as they were, so no two of them are written alike. A text is
read back character by character: each takes one step of the reader, however it is written
(`stringBody?_escapeChar`). An integer is written as a literal that has no sign if it is zero
(`not_isMinusZero_literal`), and so is not taken for a double.

Bytes do not come back. They are written as an array, and no array or object is read as a value.
-/
import DottedQuery.Json.Text
import DottedQuery.Proofs.Document.Integers
import Mathlib.Data.List.Basic
import Mathlib.Tactic.SplitIfs

namespace DottedQuery.Json

open Document (IntegerLiteral)

/-! ## Strings -/

variable {c : Char}

/-- A character is written as a letter after a backslash, as its number, or as it is. -/
theorem escapeChar_cases (c : Char) :
    (∃ letter, letter ≠ 'u' ∧ Document.Json.shortEscape? letter = some c ∧ escapeChar c = ['\\', letter]) ∨
      (c.toNat < 0x20 ∧
        escapeChar c = '\\' :: 'u' :: '0' :: '0' :: Text.hexByte (UInt8.ofNat c.toNat)) ∨
      (0x20 ≤ c.toNat ∧ c ≠ '"' ∧ c ≠ '\\' ∧ escapeChar c = [c]) := by
  unfold escapeChar
  split_ifs with hquote hbackslash hback htab hline hform hreturn hcontrol
  · exact Or.inl ⟨'"', by decide, by rw [hquote]; rfl, rfl⟩
  · exact Or.inl ⟨'\\', by decide, by rw [hbackslash]; rfl, rfl⟩
  · exact Or.inl ⟨'b', by decide, by rw [hback]; rfl, rfl⟩
  · exact Or.inl ⟨'t', by decide, by rw [htab]; rfl, rfl⟩
  · exact Or.inl ⟨'n', by decide, by rw [hline]; rfl, rfl⟩
  · exact Or.inl ⟨'f', by decide, by rw [hform]; rfl, rfl⟩
  · exact Or.inl ⟨'r', by decide, by rw [hreturn]; rfl, rfl⟩
  · exact Or.inr (Or.inl ⟨hcontrol, rfl⟩)
  · exact Or.inr (Or.inr ⟨not_lt.mp hcontrol, hquote, hbackslash, rfl⟩)

/-- The number of a control character is read back, whatever follows. -/
theorem numericEscape?_hexByte (h : c.toNat < 0x20) (rest : List Char) :
    Document.Json.numericEscape? ('0' :: '0' :: (Text.hexByte (UInt8.ofNat c.toNat) ++ rest)) =
      some (c, rest) := by
  have hnumber : ∀ n < 0x20, Text.hexNumber? ('0' :: '0' :: Text.hexByte (UInt8.ofNat n)) = some n := by
    decide
  have hunit : Document.Json.hexUnit? ('0' :: '0' :: (Text.hexByte (UInt8.ofNat c.toNat) ++ rest)) =
      some (c.toNat, rest) := by
    show (Text.hexNumber? ('0' :: '0' :: Text.hexByte (UInt8.ofNat c.toNat))).map (·, rest) = _
    rw [hnumber _ h]
    rfl
  rw [Document.Json.numericEscape?, hunit]
  simp only [Option.bind_eq_bind, Option.bind_some]
  rw [if_pos (Or.inl (by omega)), Char.ofNat_toNat]
  rfl

/-- What is written for a character is read back as it in one step, whatever follows. -/
theorem stringBody?_escapeChar (c : Char) (fuel : Nat) (rest : List Char) :
    Document.Json.stringBody? (fuel + 1) (escapeChar c ++ rest) =
      (Document.Json.stringBody? fuel rest).map fun body => (c :: body.1, body.2) := by
  obtain ⟨letter, hletter, hshort, hchars⟩ | ⟨hcontrol, hchars⟩ | ⟨hvisible, hquote, hbackslash, hchars⟩ :=
    escapeChar_cases c
  · rw [hchars]
    show Document.Json.stringBody? (fuel + 1) ('\\' :: letter :: rest) = _
    rw [Document.Json.stringBody?, if_neg (by decide), if_pos rfl]
    simp only [if_neg hletter, hshort, Option.map_some, Option.bind_eq_bind, Option.bind_some]
    cases Document.Json.stringBody? fuel rest <;> rfl
  · rw [hchars]
    show Document.Json.stringBody? (fuel + 1)
      ('\\' :: 'u' :: '0' :: '0' :: (Text.hexByte (UInt8.ofNat c.toNat) ++ rest)) = _
    rw [Document.Json.stringBody?, if_neg (by decide), if_pos rfl]
    simp only [if_true, numericEscape?_hexByte hcontrol, Option.bind_eq_bind, Option.bind_some]
    cases Document.Json.stringBody? fuel rest <;> rfl
  · rw [hchars]
    show Document.Json.stringBody? (fuel + 1) (c :: rest) = _
    rw [Document.Json.stringBody?.eq_def]
    simp only [if_neg hquote, if_neg hbackslash, if_neg (Nat.not_lt.mpr hvisible)]
    cases Document.Json.stringBody? fuel rest <;> rfl

theorem stringBody?_flatMap (cs rest : List Char) {fuel : Nat} (hfuel : cs.length < fuel) :
    Document.Json.stringBody? fuel (cs.flatMap escapeChar ++ '"' :: rest) = some (cs, rest) := by
  induction cs generalizing fuel with
  | nil =>
    obtain ⟨fuel, rfl⟩ := Nat.exists_eq_add_of_lt hfuel
    rfl
  | cons c cs ih =>
    obtain ⟨fuel, rfl⟩ : ∃ m, fuel = m + 1 := ⟨fuel - 1, by omega⟩
    rw [List.flatMap_cons, List.append_assoc, stringBody?_escapeChar, ih (Nat.lt_of_succ_lt_succ hfuel)]
    rfl

theorem escapeChar_ne_nil (c : Char) : escapeChar c ≠ [] := by
  obtain ⟨letter, -, -, hchars⟩ | ⟨-, hchars⟩ | ⟨-, -, -, hchars⟩ := escapeChar_cases c <;>
    · rw [hchars]
      exact List.cons_ne_nil _ _

theorem length_le_flatMap (cs : List Char) : cs.length ≤ (cs.flatMap escapeChar).length := by
  induction cs with
  | nil => exact Nat.le_refl _
  | cons c cs ih =>
    have hc : 0 < (escapeChar c).length := List.length_pos_iff.mpr (escapeChar_ne_nil c)
    rw [List.flatMap_cons, List.length_append, List.length_cons]
    omega

/-- A text is read back from between its quotes, whatever follows. -/
theorem string?_stringChars (s : String) (rest : List Char) :
    Document.Json.string? (s.toList.flatMap escapeChar ++ '"' :: rest) = some (s, rest) := by
  -- the reader has a step for each character of the text, and an escape takes only one
  have hlength := length_le_flatMap s.toList
  rw [Document.Json.string?, stringBody?_flatMap]
  · show some (String.ofList s.toList, rest) = _
    rw [String.ofList_toList]
  · rw [List.length_append]
    omega

/-! ## Integers -/

/-- No number but zero begins with a zero. -/
theorem head?_toDigits {n : Nat} (h : 0 < n) : (Nat.toDigits 10 n).head? ≠ some '0' := by
  induction n using Nat.strong_induction_on with
  | _ n ih =>
    rw [Nat.toDigits_eq_if (by decide)]
    split
    · rename_i hsmall
      have hdigit : ∀ k < 10, 0 < k → [Nat.digitChar k].head? ≠ some '0' := by decide
      exact hdigit n hsmall h
    · rw [List.head?_append_of_ne_nil _ Nat.toDigits_ne_nil]
      exact ih (n / 10) (by omega) (by omega)

theorem natOfDigits_toDigits (n : Nat) : Decimal.natOfDigits (Nat.toDigits 10 n) = n := by
  have hsame : Decimal.natOfDigits (Nat.toDigits 10 n) = Nat.ofDigitChars 10 (Nat.toDigits 10 n) 0 := by
    rw [Decimal.natOfDigits, Nat.ofDigitChars]
    congr
    funext total c
    rw [Nat.mul_comm]
    rfl
  rw [hsame, Nat.ofDigitChars_ten_toDigits]

/-- The literal that an integer is written as. -/
def literal (n : Int) : IntegerLiteral where
  negative := n < 0
  digits := Nat.toDigits 10 n.natAbs
  ne_nil := Nat.toDigits_ne_nil
  isDigit _ := Nat.isDigit_of_mem_toDigits (by decide) (by decide)
  unpadded hzero := by
    have hn : n.natAbs = 0 := by
      by_contra hn
      exact head?_toDigits (Nat.pos_of_ne_zero hn) hzero
    rw [hn]
    rfl

theorem negative_literal (n : Int) : (literal n).negative = true ↔ n < 0 := decide_eq_true_iff

theorem text_literal (n : Int) : (literal n).text = toString n := by
  rw [Int.toString_eq_repr, ← String.toList_inj, IntegerLiteral.text, String.toList_ofList,
    IntegerLiteral.chars, Int.repr_eq_if]
  by_cases hn : n < 0
  · have habs : (-n).toNat = n.natAbs := by omega
    rw [if_pos ((negative_literal n).mpr hn), if_neg (by omega), String.toList_append, Nat.toList_repr, habs]
    rfl
  · have habs : n.toNat = n.natAbs := by omega
    rw [if_neg (mt (negative_literal n).mp hn), if_pos (by omega), Nat.toList_repr, habs]
    rfl

theorem size_literal (n : Int) : (literal n).size = n.natAbs := natOfDigits_toDigits n.natAbs

theorem toInt_literal (n : Int) : (literal n).toInt = n := by
  rw [IntegerLiteral.toInt, size_literal]
  by_cases hn : n < 0
  · rw [if_pos ((negative_literal n).mpr hn)]
    omega
  · rw [if_neg (mt (negative_literal n).mp hn)]
    omega

/-- Zero has no sign. -/
theorem not_isMinusZero_literal (n : Int) : ¬(literal n).IsMinusZero := by
  rintro ⟨hnegative, hzero⟩
  rw [size_literal] at hzero
  have hn := (negative_literal n).mp hnegative
  omega

/-! ## Values -/

/-- A value as JSON. -/
def written (v : Value) : String := (ofValue v).compact

/-- Null, truth values, integers and texts. -/
def IsExact : Value → Prop
  | .null | .bool _ | .int _ | .text _ => True
  | .float _ | .bytes _ => False

/-- The value that is read from a JSON text. -/
def readBack (s : String) : Except Document.Error Value := (Document.Json.read s).decode Document.value

theorem readBack_text (s : String) : readBack (written (.text s)) = .ok (.text s) := by
  have hread : Document.Json.read (written (.text s)) = ⟨.json, .scalar (.text s), false⟩ := by
    simp only [Document.Json.read, written, ofValue, Tree.compact, stringText, String.toList_ofList,
      stringChars]
    rw [Document.Json.value_of_head rfl (by decide) (by decide)]
    simp only [Document.Json.scalar, string?_stringChars]
    rfl
  rw [readBack, hread]
  rfl

theorem readBack_int (n : Int64) : readBack (written (.int n)) = .ok (.int n) := by
  have hfits : IntegerLiteral.Fits n.toInt := ⟨n.le_toInt, n.toInt_lt⟩
  have hjson : readBack (written (.int n)) = (literal n.toInt).json := by
    rw [IntegerLiteral.json, text_literal]
    rfl
  rw [hjson, IntegerLiteral.json_eq_jsonOutcome, IntegerLiteral.jsonOutcome,
    if_neg (not_isMinusZero_literal _), toInt_literal, if_pos hfits, Int64.ofInt_toInt]

theorem readBack_of_isExact {v : Value} (h : IsExact v) : readBack (written v) = .ok v := by
  cases v with
  | null => rfl
  | bool b => cases b <;> rfl
  | int n => exact readBack_int n
  | text s => exact readBack_text s
  | float | bytes => exact absurd h id

/-! ## Arrays and objects -/

theorem readBack_of_list {s : String} (h : (Document.Json.skipBlanks s.toList).head? = some '[') :
    readBack s = .error (.wrongType .list Document.scalarExpected) := by
  obtain ⟨rest, hskip⟩ := List.head?_eq_some_iff.mp h
  rw [readBack, Document.Json.read, Document.Json.value, hskip]
  rfl

theorem readBack_of_record {s : String} (h : (Document.Json.skipBlanks s.toList).head? = some '\x7b') :
    readBack s = .error (.wrongType .record Document.scalarExpected) := by
  obtain ⟨rest, hskip⟩ := List.head?_eq_some_iff.mp h
  rw [readBack, Document.Json.read, Document.Json.value, hskip]
  rfl

theorem head?_written_bytes (bytes : List UInt8) :
    (Document.Json.skipBlanks (written (.bytes bytes)).toList).head? = some '[' := by
  rw [written, ofValue, Tree.compact, String.toList_append, String.toList_append]
  rfl

/-- What is read from values written as JSON. Null, truth values, integers and texts are read back as they
were, so that no two of them are written alike; and no text that begins an array or an object is read as a
value, whatever the rest of it. -/
theorem readBack_written :
    (∀ v, IsExact v → readBack (written v) = .ok v) ∧
      (∀ v w, IsExact v → IsExact w → (written v = written w ↔ v = w)) ∧
      (∀ s : String, (Document.Json.skipBlanks s.toList).head? = some '[' →
        readBack s = .error (.wrongType .list Document.scalarExpected)) ∧
      (∀ s : String, (Document.Json.skipBlanks s.toList).head? = some '\x7b' →
        readBack s = .error (.wrongType .record Document.scalarExpected)) ∧
      ∀ bytes, readBack (written (.bytes bytes)) = .error (.wrongType .list Document.scalarExpected) := by
  refine ⟨fun v => readBack_of_isExact, fun v w hv hw => ⟨fun hsame => ?_, fun h => h ▸ rfl⟩,
    fun s => readBack_of_list, fun s => readBack_of_record,
    fun bytes => readBack_of_list (head?_written_bytes bytes)⟩
  have hread := readBack_of_isExact hv
  rw [hsame, readBack_of_isExact hw] at hread
  exact (Except.ok.inj hread).symm

/-- The least integer, a text that has to be escaped, and an object with a value in it. -/
theorem readBack_written_least :
    readBack "-9223372036854775808" = .ok (.int Int64.minValue) ∧
      readBack (written (.text "\x00\"\\\n\x7f𝄞")) = .ok (.text "\x00\"\\\n\x7f𝄞") ∧
      written (.int 1) ≠ written (.text "1") ∧
      readBack " \x7b\"a\": 1\x7d" = .error (.wrongType .record Document.scalarExpected) ∧
      readBack (written (.bytes [255])) = .error (.wrongType .list Document.scalarExpected) := by
  obtain ⟨hback, hsame, -, hrecord, hbytes⟩ := readBack_written
  refine ⟨hback (.int Int64.minValue) trivial, hback _ trivial, ?_, hrecord _ (by decide), hbytes [255]⟩
  exact fun h => nomatch (hsame (.int 1) (.text "1") trivial trivial).mp h

end DottedQuery.Json
