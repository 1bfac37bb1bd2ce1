/-
# DottedQuery.Proofs.Document.Integers -- integers in JSON and in YAML

An operand that is an integer of 64 bits is written alike in JSON and in YAML, and should be read alike,
as this integer. An integer that does not fit should be refused, since a filter with another number in
its place is another filter.

Both formats keep to this for every literal from `-2 ^ 63` up to `2 ^ 64`, minus zero apart, and for no
other (`json_and_yaml_of_literal`): those from `2 ^ 63` on are refused with the same fault. Beyond these,
and for minus zero, JSON has doubles. YAML refuses what 128 bits hold, and takes what they do not hold for
a double or a text. Neither ever reads another integer.
-/
import DottedQuery.Document.Decode
import DottedQuery.Document.Json
import DottedQuery.Proofs.Document.PlainWord
import Mathlib.Algebra.Ring.Int.Defs
import Mathlib.Data.List.TakeWhile

namespace DottedQuery.Document

open Decimal (natOfDigits)

/-- A digit is no other character. -/
theorem ne_of_isDigit {c d : Char} (hc : c.isDigit = true) (hd : d.isDigit = false) : c ≠ d := by
  rintro rfl
  rw [hc] at hd
  cases hd

/-- A value that begins neither a list nor a record is a scalar. -/
theorem Json.value_of_head {c : Char} {rest : List Char} (hblank : Json.isBlank c = false) (hlist : c ≠ '[')
    (hrecord : c ≠ '\x7b') (fuel : Nat) : Json.value (fuel + 1) (c :: rest) = Json.scalar c rest := by
  have hskip : Json.skipBlanks (c :: rest) = c :: rest := by simp [Json.skipBlanks, hblank]
  rw [Json.value, hskip]
  split
  · rename_i h
    cases h
  · rename_i h
    cases h
    exact absurd rfl hlist
  · rename_i h
    cases h
    exact absurd rfl hrecord
  · rename_i h
    cases h
    rfl

/-- An integer as JSON and YAML both write it: decimal digits after an optional minus sign, and no zero
before other digits. -/
structure IntegerLiteral where
  negative : Bool
  digits : List Char
  ne_nil : digits ≠ []
  isDigit : ∀ c ∈ digits, c.isDigit = true
  unpadded : digits.head? = some '0' → digits.length = 1

namespace IntegerLiteral

/-- The characters of the literal. -/
def chars (l : IntegerLiteral) : List Char := if l.negative then '-' :: l.digits else l.digits

def text (l : IntegerLiteral) : String := String.ofList l.chars

/-- How far from zero the integer is. -/
def size (l : IntegerLiteral) : Nat := natOfDigits l.digits

def toInt (l : IntegerLiteral) : Int := if l.negative then -(l.size : Int) else l.size

/-- The value that is read from the literal in JSON. -/
def json (l : IntegerLiteral) : Except Error Value := (Json.read l.text).decode value

/-- The value that is read from the literal in YAML. -/
def yaml (l : IntegerLiteral) : Except Error Value := (Yaml.read l.text).decode value

theorem not_padded (l : IntegerLiteral) : ¬(l.digits.head? = some '0' ∧ l.digits.length ≠ 1) :=
  fun h => h.2 (l.unpadded h.1)

theorem exists_digit (l : IntegerLiteral) : ∃ c rest, l.digits = c :: rest ∧ c.isDigit = true := by
  obtain ⟨c, rest, hdigits⟩ := List.exists_cons_of_ne_nil l.ne_nil
  exact ⟨c, rest, hdigits, l.isDigit c (hdigits ▸ List.mem_cons_self)⟩

theorem isWord (l : IntegerLiteral) : Yaml.IsWord l.chars := by
  have halpha : ∀ c ∈ l.digits, c.isAlphanum = true := by
    intro c hc
    rw [Char.isAlphanum, l.isDigit c hc, Bool.or_true]
  unfold chars
  split
  · exact .hyphen l.ne_nil halpha
  · exact .plain l.ne_nil halpha

/-! ## JSON -/

theorem digits?_digits (l : IntegerLiteral) : Json.digits? l.digits = some (l.digits, []) := by
  have htake : l.digits.takeWhile Char.isDigit = l.digits := List.takeWhile_eq_self_iff.mpr l.isDigit
  have hdrop : l.digits.dropWhile Char.isDigit = [] := List.dropWhile_eq_nil_iff.mpr l.isDigit
  simp [Json.digits?, htake, hdrop, l.ne_nil]

theorem number?_digits (l : IntegerLiteral) (negative : Bool) :
    Json.number? negative l.digits = (Json.integerValue? negative l.digits).map (·, []) := by
  simp only [Json.number?, digits?_digits, Option.bind_eq_bind, Option.bind_some, if_neg l.not_padded]
  cases hvalue : Json.integerValue? negative l.digits with
  | none => simp [Json.fraction?, Json.exponent?]
  | some s => simp [Json.fraction?, Json.exponent?]

theorem value_chars (l : IntegerLiteral) (fuel : Nat) : Json.value (fuel + 1) l.chars =
    Json.ofScalar? ((Json.integerValue? l.negative l.digits).map (·, [])) := by
  obtain ⟨c, rest, hdigits, hc⟩ := l.exists_digit
  have hne (d : Char) (hd : d.isDigit = false) : c ≠ d := ne_of_isDigit hc hd
  have hnumber := l.number?_digits l.negative
  rw [← hnumber, chars]
  cases hnegative : l.negative with
  | true =>
    rw [if_pos rfl, Json.value_of_head rfl (by decide) (by decide)]
    rfl
  | false =>
    have hblank : Json.isBlank c = false := by
      simp [Json.isBlank, hne ' ' (by decide), hne '\n' (by decide), hne '\t' (by decide),
        hne '\r' (by decide)]
    rw [if_neg Bool.false_ne_true, hdigits,
      Json.value_of_head hblank (hne _ (by decide)) (hne _ (by decide))]
    simp [Json.scalar, hc, hne '"' (by decide), hne '-' (by decide)]

/-- A literal is read as a number. -/
theorem json_read (l : IntegerLiteral) : Json.read l.text =
    ⟨.json, ((Json.integerValue? l.negative l.digits).map Node.scalar).getD .broken, false⟩ := by
  have hvalue := l.value_chars (3 * l.chars.length + 2)
  simp only [Json.read, text, String.toList_ofList, hvalue]
  cases Json.integerValue? l.negative l.digits with
  | none => rfl
  | some s => rfl

/-! ## YAML -/

theorem yaml_eq (l : IntegerLiteral) : l.yaml = valueOfScalar (Yaml.plainWord l.text) := by
  rw [yaml, text, Yaml.read_word l.isWord]
  show ((do valueOfScalar (← Yaml.word none true (String.ofList l.chars))) >>= _) = _
  show (valueOfScalar (Yaml.plainWord (String.ofList l.chars)) >>= pure) = _
  rw [bind_pure]

/-- The literal begins with a minus sign or a digit. -/
theorem text_ne (l : IntegerLiteral) {s : String}
    (h : s.toList.head?.all (fun c => c != '-' && !c.isDigit) = true) : l.text ≠ s := by
  rintro rfl
  rw [text, String.toList_ofList, chars] at h
  obtain ⟨c, rest, hdigits, hc⟩ := l.exists_digit
  split at h
  · cases h
  · rw [hdigits] at h
    simp [hc] at h

theorem splitSign_chars (l : IntegerLiteral) : Decimal.splitSign l.chars = (l.negative, l.digits) := by
  obtain ⟨c, rest, hdigits, hc⟩ := l.exists_digit
  rw [chars]
  cases l.negative with
  | true => rfl
  | false =>
    rw [if_neg Bool.false_ne_true, hdigits]
    unfold Decimal.splitSign
    split
    · rename_i h
      cases h
      cases hc
    · rename_i h
      cases h
      cases hc
    · rfl

theorem magnitude?_digits (l : IntegerLiteral) : Yaml.magnitude? l.digits = some l.size := by
  have hall : l.digits.all Char.isDigit = true := List.all_eq_true.mpr l.isDigit
  have hne : l.digits.isEmpty = false := by simp [l.ne_nil]
  have hbase {d : Char} {rest : List Char} (hd : d.isDigit = false) : l.digits ≠ '0' :: d :: rest := by
    intro h
    exact ne_of_isDigit (l.isDigit d (by simp [h])) hd rfl
  unfold Yaml.magnitude?
  split
  · exact absurd ‹_› (hbase (by decide))
  · exact absurd ‹_› (hbase (by decide))
  · exact absurd ‹_› (hbase (by decide))
  · rw [hne, hall, if_neg (by simp), if_neg l.not_padded]
    rfl

/-- YAML takes the literal for an integer if 128 bits hold it. -/
theorem integer?_text (l : IntegerLiteral) :
    Yaml.integer? l.text = if -2 ^ 127 ≤ l.toInt ∧ l.toInt < 2 ^ 128 then some l.toInt else none := by
  have hpow : Nat.pow 2 127 = 2 ^ 127 ∧ Nat.pow 2 128 = 2 ^ 128 := ⟨rfl, rfl⟩
  simp only [Yaml.integer?, text, String.toList_ofList, splitSign_chars, magnitude?_digits, hpow]
  by_cases hnegative : l.negative = true
  · have hint : l.toInt = -(l.size : Int) := if_pos hnegative
    rw [if_pos hnegative, ← hint]
    by_cases hsize : l.size ≤ 2 ^ 127
    · rw [if_pos hsize, if_pos (by omega)]
    · rw [if_neg hsize, if_neg (by omega)]
  · have hint : l.toInt = l.size := if_neg hnegative
    rw [if_neg hnegative, ← hint]
    by_cases hsize : l.size < 2 ^ 128
    · rw [if_pos hsize, if_pos (by omega)]
    · rw [if_neg hsize, if_neg (by omega)]

/-- The literal is no other word. -/
theorem text_not_mem (l : IntegerLiteral) {words : List String}
    (h : words.all (fun s => s.toList.head?.all fun c => c != '-' && !c.isDigit) = true) :
    words.contains l.text = false := by
  rw [List.contains_eq_mem, decide_eq_false_iff_not]
  intro hmem
  exact l.text_ne (List.all_eq_true.mp h _ hmem) rfl

theorem plainWord_text (l : IntegerLiteral) : Yaml.plainWord l.text =
    if -2 ^ 127 ≤ l.toInt ∧ l.toInt < 2 ^ 128 then .int l.toInt
    else
      match Yaml.float? l.text with
      | some x => .float x
      | none => .text l.text := by
  have hempty : l.text.isEmpty = false := by
    rw [← Bool.not_eq_true, String.isEmpty_iff]
    exact l.text_ne rfl
  have hnull : Yaml.isNullWord l.text = false := l.text_not_mem (by decide)
  have htruth : Yaml.truthValue? l.text = none := by
    rw [Yaml.truthValue?, l.text_not_mem (by decide), l.text_not_mem (by decide)]
    rfl
  have hpadded : Yaml.isPaddedDigits l.text = false := by
    simp only [Yaml.isPaddedDigits, text, String.toList_ofList, splitSign_chars]
    by_cases hzero : l.digits.head? = some '0'
    · simp [l.unpadded hzero]
    · simp [hzero]
  rw [Yaml.plainWord, hempty, hnull, htruth, integer?_text, hpadded]
  by_cases hrange : -2 ^ 127 ≤ l.toInt ∧ l.toInt < 2 ^ 128
  · rw [if_pos hrange, if_pos hrange]
    rfl
  · rw [if_neg hrange, if_neg hrange]
    rfl

/-! ## What is read -/

/-- The integer has 64 bits, one of them for the sign. -/
def Fits (n : Int) : Prop := -2 ^ 63 ≤ n ∧ n < 2 ^ 63

instance (n : Int) : Decidable (Fits n) := inferInstanceAs (Decidable (_ ∧ _))

/-- What fits is held by 64 bits with or without a sign. -/
theorem Fits.word {n : Int} (h : Fits n) : -2 ^ 63 ≤ n ∧ n < 2 ^ 64 := by
  rw [Fits] at h
  omega

theorem large_of_not_fits {n : Int} (h : ¬Fits n) (hword : -2 ^ 63 ≤ n ∧ n < 2 ^ 64) :
    0 ≤ n ∧ n < 2 ^ 64 := by
  rw [Fits] at h
  omega

theorem valueOfScalar_int (n : Int) : valueOfScalar (.int n) =
    if Fits n then .ok (.int (Int64.ofInt n))
    else if 0 ≤ n ∧ n < 2 ^ 64 then .error (.outOfRange n)
    else .error (.wrongType (.int n) scalarExpected) := by
  have hmin : Int64.minValue.toInt = -2 ^ 63 := by decide
  have hmax : Int64.maxValue.toInt = 2 ^ 63 - 1 := by decide
  have hsize : (UInt64.size : Int) = 2 ^ 64 := by decide
  have hfits : (Int64.minValue.toInt ≤ n ∧ n ≤ Int64.maxValue.toInt) ↔ Fits n := by
    rw [hmin, hmax, Fits]
    omega
  simp only [valueOfScalar, hfits, hsize]

/-- The literal is minus zero. -/
def IsMinusZero (l : IntegerLiteral) : Prop := l.negative = true ∧ l.size = 0

instance (l : IntegerLiteral) : Decidable l.IsMinusZero := inferInstanceAs (Decidable (_ ∧ _))

/-- The literal as a double, which JSON refuses if it is too large. -/
def double (l : IntegerLiteral) : Except Error Value :=
  match Json.numeralValue? ⟨l.digits, [], 0⟩ with
  | some x => .ok (.float (if l.negative then -x else x))
  | none => .error .malformed

/-- What JSON makes of the literal. -/
def jsonOutcome (l : IntegerLiteral) : Except Error Value :=
  if l.IsMinusZero then l.double
  else if Fits l.toInt then .ok (.int (Int64.ofInt l.toInt))
  else if 0 ≤ l.toInt ∧ l.toInt < 2 ^ 64 then .error (.outOfRange l.toInt)
  else l.double

/-- What YAML makes of the literal. -/
def yamlOutcome (l : IntegerLiteral) : Except Error Value :=
  if Fits l.toInt then .ok (.int (Int64.ofInt l.toInt))
  else if 0 ≤ l.toInt ∧ l.toInt < 2 ^ 64 then .error (.outOfRange l.toInt)
  else if -2 ^ 127 ≤ l.toInt ∧ l.toInt < 2 ^ 128 then
    .error (.wrongType (.int l.toInt) scalarExpected)
  else
    match Yaml.float? l.text with
    | some x => .ok (.float x)
    | none => .ok (.text l.text)

theorem integerValue?_digits (l : IntegerLiteral) : Json.integerValue? l.negative l.digits =
    if ¬l.IsMinusZero ∧ -2 ^ 63 ≤ l.toInt ∧ l.toInt < 2 ^ 64 then some (.int l.toInt)
    else (Json.numeralValue? ⟨l.digits, [], 0⟩).map fun x => .float (if l.negative then -x else x) := by
  have hbound : Json.wordBound = 2 ^ 64 := by decide
  have hpow : Nat.pow 2 63 = 2 ^ 63 := rfl
  have hiff : (l.size < Json.wordBound ∧ (l.negative = true → 0 < l.size ∧ l.size ≤ Nat.pow 2 63)) ↔
      ¬l.IsMinusZero ∧ -2 ^ 63 ≤ l.toInt ∧ l.toInt < 2 ^ 64 := by
    rw [hbound, hpow, IsMinusZero, toInt]
    by_cases hnegative : l.negative = true
    · simp only [hnegative, true_and, if_true, forall_const]
      omega
    · rw [Bool.not_eq_true] at hnegative
      simp only [hnegative, Bool.false_eq_true, false_and, if_false, false_implies, not_false_eq_true,
        true_and, and_true]
      omega
  exact if_congr hiff rfl rfl

theorem json_eq_jsonOutcome (l : IntegerLiteral) : l.json = l.jsonOutcome := by
  have hdouble : (Document.decode ⟨.json, (((Json.numeralValue? ⟨l.digits, [], 0⟩).map fun x =>
      Scalar.float (if l.negative then -x else x)).map Node.scalar).getD .broken, false⟩ value) =
        l.double := by
    rw [double]
    cases Json.numeralValue? ⟨l.digits, [], 0⟩ with
    | none => rfl
    | some x => rfl
  rw [json, json_read, integerValue?_digits, jsonOutcome]
  by_cases hzero : l.IsMinusZero
  · rw [if_neg (fun h => h.1 hzero), if_pos hzero, hdouble]
  rw [if_neg hzero]
  by_cases hrange : -2 ^ 63 ≤ l.toInt ∧ l.toInt < 2 ^ 64
  · rw [if_pos ⟨hzero, hrange⟩]
    show valueOfScalar (.int l.toInt) >>= pure = _
    rw [bind_pure, valueOfScalar_int]
    by_cases hfits : Fits l.toInt
    · rw [if_pos hfits, if_pos hfits]
    · have hlarge := large_of_not_fits hfits hrange
      rw [if_neg hfits, if_neg hfits, if_pos hlarge, if_pos hlarge]
  · have hfits : ¬Fits l.toInt := fun h => hrange h.word
    rw [if_neg (fun h => hrange h.2), if_neg hfits, if_neg (by omega), hdouble]

theorem yaml_eq_yamlOutcome (l : IntegerLiteral) : l.yaml = l.yamlOutcome := by
  rw [yaml_eq, plainWord_text]
  by_cases hrange : -2 ^ 127 ≤ l.toInt ∧ l.toInt < 2 ^ 128
  · rw [if_pos hrange, valueOfScalar_int, yamlOutcome, if_pos hrange]
  · have hfits : ¬Fits l.toInt := by
      intro h
      have hword := h.word
      omega
    rw [if_neg hrange, yamlOutcome, if_neg hfits, if_neg (by omega), if_neg hrange]
    cases Yaml.float? l.text with
    | none => rfl
    | some x => rfl

/-! ## What should be read -/

/-- The integer itself is read if it has 64 bits, and else nothing. -/
def Keeps (n : Int) (outcome : Except Error Value) : Prop :=
  (Fits n → outcome = .ok (.int (Int64.ofInt n))) ∧ (¬Fits n → ∃ fault, outcome = .error fault)

theorem toInt_ofInt {n : Int} (h : Fits n) : (Int64.ofInt n).toInt = n :=
  Int64.toInt_ofInt_of_le h.1 h.2

theorem double_ne_int (l : IntegerLiteral) (k : Int64) : l.double ≠ .ok (.int k) := by
  rw [double]
  cases Json.numeralValue? ⟨l.digits, [], 0⟩ <;> exact nofun

theorem exists_double_eq_error_iff (l : IntegerLiteral) :
    (∃ fault, l.double = .error fault) ↔ Json.numeralValue? ⟨l.digits, [], 0⟩ = none := by
  rw [double]
  cases Json.numeralValue? ⟨l.digits, [], 0⟩ with
  | none => exact iff_of_true ⟨_, rfl⟩ rfl
  | some x => exact iff_of_false nofun nofun

theorem keeps_of_fits {n : Int} {outcome : Except Error Value} (h : Fits n) :
    Keeps n outcome ↔ outcome = .ok (.int (Int64.ofInt n)) :=
  ⟨fun hkeeps => hkeeps.1 h, fun houtcome => ⟨fun _ => houtcome, fun hnot => absurd h hnot⟩⟩

theorem keeps_of_not_fits {n : Int} {outcome : Except Error Value} (h : ¬Fits n) :
    Keeps n outcome ↔ ∃ fault, outcome = .error fault :=
  ⟨fun hkeeps => hkeeps.2 h, fun houtcome => ⟨fun hfits => absurd hfits h, fun _ => houtcome⟩⟩

/-- Minus zero fits 64 bits, but is a double in JSON. -/
theorem keeps_jsonOutcome_iff (l : IntegerLiteral) : Keeps l.toInt l.jsonOutcome ↔ ¬l.IsMinusZero ∧
    (-2 ^ 63 ≤ l.toInt ∧ l.toInt < 2 ^ 64 ∨ Json.numeralValue? ⟨l.digits, [], 0⟩ = none) := by
  by_cases hzero : l.IsMinusZero
  · have hint : l.toInt = 0 := by rw [toInt, if_pos hzero.1, hzero.2]; rfl
    have hfits : Fits l.toInt := by
      rw [hint]
      decide
    rw [keeps_of_fits hfits, jsonOutcome, if_pos hzero]
    exact iff_of_false (l.double_ne_int _) fun h => h.1 hzero
  rw [jsonOutcome, if_neg hzero]
  by_cases hfits : Fits l.toInt
  · rw [keeps_of_fits hfits, if_pos hfits]
    exact iff_of_true rfl ⟨hzero, Or.inl hfits.word⟩
  rw [keeps_of_not_fits hfits, if_neg hfits]
  by_cases hlarge : 0 ≤ l.toInt ∧ l.toInt < 2 ^ 64
  · rw [if_pos hlarge]
    exact iff_of_true ⟨_, rfl⟩ ⟨hzero, Or.inl (by omega)⟩
  · have hrange : ¬(-2 ^ 63 ≤ l.toInt ∧ l.toInt < 2 ^ 64) := fun h => hlarge (large_of_not_fits hfits h)
    rw [if_neg hlarge, exists_double_eq_error_iff]
    exact ⟨fun h => ⟨hzero, Or.inr h⟩, fun h => h.2.resolve_left hrange⟩

/-- Where 128 bits do not suffice YAML has a double or a text. -/
theorem keeps_yamlOutcome_iff (l : IntegerLiteral) :
    Keeps l.toInt l.yamlOutcome ↔ -2 ^ 127 ≤ l.toInt ∧ l.toInt < 2 ^ 128 := by
  rw [yamlOutcome]
  by_cases hfits : Fits l.toInt
  · rw [keeps_of_fits hfits, if_pos hfits]
    have hword := hfits.word
    exact iff_of_true rfl (by omega)
  rw [keeps_of_not_fits hfits, if_neg hfits]
  by_cases hlarge : 0 ≤ l.toInt ∧ l.toInt < 2 ^ 64
  · rw [if_pos hlarge]
    exact iff_of_true ⟨_, rfl⟩ (by omega)
  rw [if_neg hlarge]
  by_cases hrange : -2 ^ 127 ≤ l.toInt ∧ l.toInt < 2 ^ 128
  · rw [if_pos hrange]
    exact iff_of_true ⟨_, rfl⟩ hrange
  · rw [if_neg hrange]
    cases Yaml.float? l.text with
    | none => exact iff_of_false nofun hrange
    | some x => exact iff_of_false nofun hrange

theorem toInt_of_jsonOutcome (l : IntegerLiteral) {k : Int64} (h : l.jsonOutcome = .ok (.int k)) :
    k.toInt = l.toInt := by
  rw [jsonOutcome] at h
  split at h
  · exact absurd h (l.double_ne_int k)
  split at h
  · rename_i hfits
    cases h
    exact toInt_ofInt hfits
  split at h
  · cases h
  · exact absurd h (l.double_ne_int k)

theorem toInt_of_yamlOutcome (l : IntegerLiteral) {k : Int64} (h : l.yamlOutcome = .ok (.int k)) :
    k.toInt = l.toInt := by
  rw [yamlOutcome] at h
  split at h
  · rename_i hfits
    cases h
    exact toInt_ofInt hfits
  split at h
  · cases h
  split at h
  · cases h
  · split at h <;> cases h

/-- From the least integer of 64 bits with a sign to the greatest of 64 bits without one the formats agree,
and nowhere else do they both do what they should. -/
theorem keeps_both_iff (l : IntegerLiteral) :
    (Keeps l.toInt l.jsonOutcome ∧ Keeps l.toInt l.yamlOutcome ∧ l.jsonOutcome = l.yamlOutcome) ↔
      ¬l.IsMinusZero ∧ -2 ^ 63 ≤ l.toInt ∧ l.toInt < 2 ^ 64 := by
  rw [keeps_jsonOutcome_iff, keeps_yamlOutcome_iff]
  constructor
  · rintro ⟨⟨hzero, hrange⟩, hyaml, heq⟩
    refine ⟨hzero, ?_⟩
    by_contra hout
    have hfits : ¬Fits l.toInt := fun h => hout h.word
    have hlarge : ¬(0 ≤ l.toInt ∧ l.toInt < 2 ^ 64) := by omega
    -- JSON would have gone wrong, and YAML have found another type
    rw [jsonOutcome, if_neg hzero, if_neg hfits, if_neg hlarge, yamlOutcome, if_neg hfits, if_neg hlarge,
      if_pos hyaml, double, hrange.resolve_left hout] at heq
    cases heq
  · rintro ⟨hzero, hrange⟩
    refine ⟨⟨hzero, Or.inl hrange⟩, by omega, ?_⟩
    rw [jsonOutcome, if_neg hzero, yamlOutcome]
    by_cases hfits : Fits l.toInt
    · rw [if_pos hfits, if_pos hfits]
    · have hlarge := large_of_not_fits hfits hrange
      rw [if_neg hfits, if_neg hfits, if_pos hlarge, if_pos hlarge]

/-- What becomes of a literal in JSON and in YAML. Both read the integer if it has 64 bits and refuse it with
the same fault if it has not, exactly if it is not minus zero and 64 bits hold it with or without a sign;
and where either reads an integer it is the one that is written. -/
theorem json_and_yaml_of_literal (l : IntegerLiteral) :
    l.json = l.jsonOutcome ∧ l.yaml = l.yamlOutcome ∧
      ((Keeps l.toInt l.json ∧ Keeps l.toInt l.yaml ∧ l.json = l.yaml) ↔
        ¬l.IsMinusZero ∧ -2 ^ 63 ≤ l.toInt ∧ l.toInt < 2 ^ 64) ∧
      (Keeps l.toInt l.json ↔ ¬l.IsMinusZero ∧
        (-2 ^ 63 ≤ l.toInt ∧ l.toInt < 2 ^ 64 ∨ Json.numeralValue? ⟨l.digits, [], 0⟩ = none)) ∧
      (Keeps l.toInt l.yaml ↔ -2 ^ 127 ≤ l.toInt ∧ l.toInt < 2 ^ 128) ∧
      ∀ k, l.json = .ok (.int k) ∨ l.yaml = .ok (.int k) → k.toInt = l.toInt := by
  rw [l.json_eq_jsonOutcome, l.yaml_eq_yamlOutcome]
  refine ⟨rfl, rfl, l.keeps_both_iff, l.keeps_jsonOutcome_iff, l.keeps_yamlOutcome_iff, ?_⟩
  rintro k (h | h)
  · exact l.toInt_of_jsonOutcome h
  · exact l.toInt_of_yamlOutcome h

/-- The first integer that has too many bits. -/
def tooLarge : IntegerLiteral where
  negative := false
  digits := "9223372036854775808".toList
  ne_nil := by decide
  isDigit := List.all_eq_true.mp (by decide)
  unpadded := by decide

/-- It is refused in both formats with the same fault. -/
theorem json_and_yaml_of_tooLarge : Keeps (2 ^ 63) tooLarge.json ∧ Keeps (2 ^ 63) tooLarge.yaml ∧
    tooLarge.json = .error (.outOfRange (2 ^ 63)) ∧ tooLarge.json = tooLarge.yaml := by
  obtain ⟨hjson, -, hboth, -⟩ := json_and_yaml_of_literal tooLarge
  have hint : tooLarge.toInt = 2 ^ 63 := by decide
  rw [hint] at hboth
  obtain ⟨hkeeps, hkeeps', heq⟩ := hboth.mpr ⟨by decide, by decide⟩
  refine ⟨hkeeps, hkeeps', ?_, heq⟩
  rw [hjson]
  rfl

/-- One more than 64 bits hold, minus zero, and one more than 128 bits hold are read as doubles. -/
theorem read_as_double :
    ((Json.read "18446744073709551616").decode value matches .ok (.float _)) = true ∧
      ((Yaml.read "18446744073709551616").decode value matches .error _) = true ∧
      ((Json.read "-0").decode value matches .ok (.float _)) = true ∧
      ((Yaml.read "-0").decode value matches .ok (.int 0)) = true ∧
      ((Yaml.read "340282366920938463463374607431768211456").decode value matches .ok (.float _)) =
        true := by
  refine ⟨?_, ?_, ?_, ?_, ?_⟩ <;> decide +kernel

end IntegerLiteral

end DottedQuery.Document
