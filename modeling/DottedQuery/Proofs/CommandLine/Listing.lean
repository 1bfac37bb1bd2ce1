/-
# DottedQuery.Proofs.CommandLine.Listing -- operands stay in their comments

Below a statement its operands are listed, each in a comment of its own. Whoever pastes the listing into a
console runs the statement and nothing else, if no operand leaves its comment. No value has a character in
its display with which a line could end (`breaksLine_of_mem_display`): a text is quoted, and of all other
values there are only letters, digits and a few marks.

So a listing has, after the statement, one line for each operand, however lines are told apart
(`lines_of_listing`). The display of a text also tells which text it is, and that it is one.
-/
import DottedQuery.CommandLine.Run
import DottedQuery.Proofs.Decimal.Texts
import DottedQuery.Proofs.Sql.Tokens
import DottedQuery.Proofs.Success
import DottedQuery.Proofs.Text.Letters
import DottedQuery.Proofs.Text.Quoted

namespace DottedQuery

open Text (breaksLine)

/-! ## Displays of values -/

namespace Value

variable {v : Value} {c : Char}

/-- What the displays of values other than texts are made of. -/
def IsPlainMark (c : Char) : Prop := c.isAlphanum = true ∨ c ∈ ['-', '.', '\'']

instance (c : Char) : Decidable (IsPlainMark c) := inferInstanceAs (Decidable (_ ∨ _))

theorem IsPlainMark.breaksLine (h : IsPlainMark c) : breaksLine c = false := by
  obtain h | h := h
  · have hrange := Text.toNat_of_isAlphanum h
    simp only [Text.breaksLine, Bool.or_eq_false_iff, Bool.and_eq_false_iff, decide_eq_false_iff_not]
    omega
  · have hmarks : ∀ d ∈ ['-', '.', '\''], Text.breaksLine d = false :=
      List.forall_iff_forall_mem.mp (by decide)
    exact hmarks c h

theorem IsPlainMark.ne_quote (h : IsPlainMark c) : c ≠ '"' := by
  rintro rfl
  revert h
  decide

theorem isPlainMark_of_isDigit (h : c.isDigit = true) : IsPlainMark c :=
  Or.inl (by rw [Char.isAlphanum, h, Bool.or_true])

theorem isPlainMark_of_mem_intText {n : Int64} (h : c ∈ (intText n).toList) : IsPlainMark c := by
  obtain h | rfl := Decimal.mem_toString h
  · exact isPlainMark_of_isDigit h
  · exact Or.inr (by decide)

theorem isPlainMark_of_mem_byteText {b : UInt8} (h : c ∈ byteText b) : IsPlainMark c := by
  have hdigits : ∀ d ∈ '0' :: Text.hexDigits, d.toUpper.isAlphanum = true :=
    List.forall_iff_forall_mem.mp (by decide)
  have hdigit (n : Nat) : (Text.hexDigit n).toUpper.isAlphanum = true := by
    rw [Text.hexDigit, List.getD_eq_getElem?_getD]
    cases hget : Text.hexDigits[n]? with
    | none => exact hdigits '0' (by decide)
    | some d => exact hdigits d (List.mem_cons_of_mem _ (List.mem_of_getElem? hget))
  rw [byteText, Text.hexByte, List.map_cons, List.map_cons, List.map_nil] at h
  obtain rfl | h := List.mem_cons.mp h
  · exact Or.inl (hdigit _)
  · rw [List.mem_singleton.mp h]
    exact Or.inl (hdigit _)

/-- Only texts are quoted. -/
theorem display_cases (v : Value) :
    (∃ s, v = text s) ∨ ∀ c ∈ v.display.toList, IsPlainMark c := by
  have hwords : ∀ word ∈ ["null", "true", "false"], word.toList.Forall IsPlainMark := by decide
  have hword {word : String} (h : word ∈ ["null", "true", "false"]) : ∀ c ∈ word.toList, IsPlainMark c :=
    List.forall_iff_forall_mem.mp (hwords word h)
  cases v with
  | text s => exact Or.inl ⟨s, rfl⟩
  | null => exact Or.inr (hword (by decide))
  | bool b =>
    cases b with
    | false => exact Or.inr (hword (by decide))
    | true => exact Or.inr (hword (by decide))
  | int n => exact Or.inr fun c hc => isPlainMark_of_mem_intText hc
  | float x =>
    refine Or.inr fun c hc => ?_
    obtain h | rfl | rfl := Decimal.mem_plain_render hc
    · exact Or.inl h
    · exact Or.inr (by decide)
    · exact Or.inr (by decide)
  | bytes bs =>
    refine Or.inr fun c hc => ?_
    have hchars : (bytes bs).display.toList = 'x' :: '\'' :: (bs.flatMap byteText ++ ['\'']) :=
      String.toList_ofList
    rw [hchars, List.mem_cons, List.mem_cons, List.mem_append, List.mem_singleton] at hc
    obtain rfl | rfl | h | rfl := hc
    · exact Or.inl (by decide)
    · exact Or.inr (by decide)
    · obtain ⟨b, -, hb⟩ := List.mem_flatMap.mp h
      exact isPlainMark_of_mem_byteText hb
    · exact Or.inr (by decide)

/-- No line ends within the display of a value. -/
theorem breaksLine_of_mem_display (h : c ∈ v.display.toList) : breaksLine c = false := by
  obtain ⟨s, rfl⟩ | hmarks := v.display_cases
  · exact Text.breaksLine_of_mem_quoted h
  · exact (hmarks c h).breaksLine

/-- The display of a text is that of no other value. -/
theorem eq_text_of_display {s : String} (h : v.display = (text s).display) : v = text s := by
  obtain ⟨t, rfl⟩ | hmarks := v.display_cases
  · rw [Text.quoted_inj.mp h]
  · have hquote : '"' ∈ v.display.toList := by
      rw [h, display, Text.quoted, String.toList_ofList]
      exact List.mem_cons_self
    exact absurd rfl (hmarks '"' hquote).ne_quote

end Value

/-! ## Lines -/

/-- The lines of a text: what stands between characters that end lines. -/
def lines (s : String) : List String := (s.toList.splitOnP breaksLine).map String.ofList

/-- Lines that each end in a line feed. After the last one the text is at its end, which leaves an empty
line. -/
theorem lines_of_ended {s : String} {ended : List String}
    (hs : s.toList = ended.flatMap fun line => line.toList ++ ['\n'])
    (h : ∀ line ∈ ended, ∀ c ∈ line.toList, breaksLine c = false) : lines s = ended ++ [""] := by
  rw [lines, hs]
  clear hs
  induction ended with
  | nil => rfl
  | cons line ended ih =>
    obtain ⟨hline, hended⟩ := List.forall_mem_cons.mp h
    rw [List.flatMap_cons, List.append_assoc, List.singleton_append,
      List.splitOnP_append_cons _ _ (by decide), List.splitOnP_eq_singleton hline, List.map_append, ih hended,
      List.map_singleton, String.ofList_toList]
    rfl

namespace CommandLine

/-- The line for an operand, under the placeholder with its number. -/
def operandLine (dialect : Sql.Dialect) (number : Nat) (value : Value) : String :=
  "-- " ++ dialect.placeholder number ++ ": " ++ value.display

theorem breaksLine_of_mem_placeholder {dialect : Sql.Dialect} {number : Nat} {c : Char}
    (h : c ∈ (dialect.placeholder number).toList) : breaksLine c = false := by
  cases dialect with
  | sqlite | mysql | duckdb =>
    exact List.forall_iff_forall_mem.mp (by decide : "?".toList.Forall (breaksLine · = false)) c h
  | postgres =>
    have hmark : ∀ c ∈ "$".toList, breaksLine c = false := List.forall_iff_forall_mem.mp (by decide)
    rw [Sql.Dialect.placeholder, String.toList_append, List.mem_append] at h
    obtain h | h := h
    · exact hmark c h
    · exact (Value.isPlainMark_of_isDigit (Text.isDigit_of_mem_repr h)).breaksLine

theorem breaksLine_of_mem_operandLine {dialect : Sql.Dialect} {number : Nat} {value : Value} {c : Char}
    (h : c ∈ (operandLine dialect number value).toList) : breaksLine c = false := by
  have hmarks : ∀ word ∈ ["-- ", ": "], word.toList.Forall (breaksLine · = false) := by decide
  simp only [operandLine, String.toList_append, List.mem_append] at h
  obtain ((h | h) | h) | h := h
  · exact List.forall_iff_forall_mem.mp (hmarks _ (by decide)) c h
  · exact breaksLine_of_mem_placeholder h
  · exact List.forall_iff_forall_mem.mp (hmarks _ (by decide)) c h
  · exact Value.breaksLine_of_mem_display h

/-- Operands are listed line by line. -/
theorem toList_operandLines (dialect : Sql.Dialect) (number : Nat) (values : List Value) :
    (operandLines dialect number values).toList =
      (values.mapIdx fun i value => operandLine dialect (number + i) value).flatMap
        fun line => line.toList ++ ['\n'] := by
  induction values generalizing number with
  | nil => rfl
  | cons value values ih =>
    have hend : "\n".toList = ['\n'] := rfl
    have hnext (i : Nat) : number + 1 + i = number + (i + 1) := by omega
    rw [operandLines, String.toList_append, String.toList_append, ih, List.mapIdx_cons, List.flatMap_cons,
      hend]
    simp only [hnext, Nat.add_zero, operandLine]

theorem lines_operandLines (dialect : Sql.Dialect) (number : Nat) (values : List Value) :
    lines (operandLines dialect number values) =
      (values.mapIdx fun i value => operandLine dialect (number + i) value) ++ [""] := by
  refine lines_of_ended (toList_operandLines dialect number values) fun line hline c hc => ?_
  obtain ⟨i, hi, rfl⟩ := List.mem_mapIdx.mp hline
  exact breaksLine_of_mem_operandLine hc

/-- What `compile` prints is a listing. -/
theorem exists_listing_of_compile {s : Surroundings} {settings : Settings} {spec : String}
    {catalog database : Option String} {chosen : Option Sql.Dialect} {output : String}
    (h : compile s settings spec catalog database chosen = .ok output) :
    ∃ dialect statement, output = listing dialect statement := by
  obtain ⟨spec, -, h⟩ := bind_eq_ok.mp h
  obtain ⟨catalog, -, h⟩ := bind_eq_ok.mp h
  obtain ⟨plan, -, h⟩ := bind_eq_ok.mp h
  cases h
  exact ⟨_, _, rfl⟩

/-- A listing is the statement and below it one line for each operand, which begins as a comment with the
placeholder of the operand and shows the operand. Whatever `compile` prints is a listing. No display of a
value has a character that ends a line, and that of a text is the display of no other value. -/
theorem lines_of_listing :
    (∀ dialect statement, ∃ below, listing dialect statement = statement.text ++ ";\n" ++ below ∧
      lines below = (statement.operands.mapIdx fun i value =>
        "-- " ++ dialect.placeholder (i + 1) ++ ": " ++ value.display) ++ [""]) ∧
    (∀ s settings spec catalog database chosen output,
      compile s settings spec catalog database chosen = .ok output →
        ∃ dialect statement, output = listing dialect statement) ∧
    (∀ value : Value, ∀ c ∈ value.display.toList, breaksLine c = false) ∧
    ∀ (value : Value) (s : String), value.display = (Value.text s).display → value = .text s := by
  refine ⟨fun dialect statement => ⟨operandLines dialect 1 statement.operands, rfl, ?_⟩, ?_, ?_, ?_⟩
  · rw [lines_operandLines]
    simp only [operandLine, Nat.add_comm 1]
  · exact fun s settings spec catalog database chosen output h => exists_listing_of_compile h
  · exact fun value c h => Value.breaksLine_of_mem_display h
  · exact fun value s h => Value.eq_text_of_display h

/-- A statement with an operand that is a statement itself. -/
def suspicious : Sql.Statement := ⟨"SELECT 1", [.text "x\n; DROP TABLE t -- \"", .int 5]⟩

/-- It stays in its comment. -/
theorem lines_of_listing_suspicious : ∃ below,
    listing .postgres suspicious = "SELECT 1;\n" ++ below ∧
      lines below = ["-- $1: \"x\\n; DROP TABLE t -- \\\"\"", "-- $2: 5", ""] := by
  obtain ⟨below, hlisting, hlines⟩ := lines_of_listing.1 .postgres suspicious
  exact ⟨below, hlisting, hlines.trans (by decide +kernel)⟩

end CommandLine

end DottedQuery
