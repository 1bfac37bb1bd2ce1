/-
# DottedQuery.Proofs.Document.PlainWord -- a YAML text that is one word

Letters and digits mean nothing to the structure of a YAML text, and neither does a hyphen that stands
before one of them. So a text of such characters alone is a single plain scalar, however long it is
(`read_word`): up to 1024 characters it is held back as a possible key until the end of the text has
been met, and a longer one is delivered at once, to the same effect.

What the word means is another question, which is asked where a value is wanted.
-/
import DottedQuery.Document.Yaml.Read
import DottedQuery.Proofs.Text.Letters

namespace DottedQuery.Document.Yaml

variable {w : List Char} {ch d : Char}

/-! ## Words -/

/-- A word of letters and digits, perhaps after a hyphen. -/
inductive IsWord : List Char → Prop
  | plain {body : List Char} (hne : body ≠ []) (h : ∀ c ∈ body, c.isAlphanum = true) : IsWord body
  | hyphen {body : List Char} (hne : body ≠ []) (h : ∀ c ∈ body, c.isAlphanum = true) :
      IsWord ('-' :: body)

/-- A character of a word. -/
def IsWordChar (c : Char) : Prop := c.isAlphanum = true ∨ c = '-'

theorem IsWordChar.ne (h : IsWordChar ch) (hd : d.isAlphanum = false) (hd' : d ≠ '-') : ch ≠ d := by
  rintro rfl
  rcases h with h | h
  · rw [hd] at h
    cases h
  · exact hd' h

theorem IsWordChar.isBlank (h : IsWordChar ch) : Yaml.isBlank ch = false := by
  have h₁ : ch ≠ ' ' := h.ne (by decide) (by decide)
  have h₂ : ch ≠ '\t' := h.ne (by decide) (by decide)
  simp [Yaml.isBlank, h₁, h₂]

theorem IsWordChar.isBreak (h : IsWordChar ch) : Yaml.isBreak ch = false := by
  have h₁ : ch ≠ '\r' := h.ne (by decide) (by decide)
  have h₂ : ch ≠ '\n' := h.ne (by decide) (by decide)
  have h₃ : ch ≠ '\x85' := h.ne (by decide) (by decide)
  have h₄ : ch ≠ '\u2028' := h.ne (by decide) (by decide)
  have h₅ : ch ≠ '\u2029' := h.ne (by decide) (by decide)
  simp [Yaml.isBreak, h₁, h₂, h₃, h₄, h₅]

theorem IsWordChar.isAllowed (h : IsWordChar ch) : Yaml.isAllowed ch = true := by
  have hrange : 0x20 ≤ ch.toNat ∧ ch.toNat ≤ 0x7E := by
    rcases h with h | rfl
    · have hrange := Text.toNat_of_isAlphanum h
      omega
    · decide
  simp [Yaml.isAllowed, hrange]

theorem IsWord.chars (h : IsWord w) : ∀ c ∈ w, IsWordChar c := by
  cases h with
  | plain hne h => exact fun c hc => Or.inl (h c hc)
  | hyphen hne h =>
    intro c hc
    rcases List.mem_cons.mp hc with rfl | hc
    · exact Or.inr rfl
    · exact Or.inl (h c hc)

theorem IsWord.ne_nil (h : IsWord w) : w ≠ [] := by
  cases h with
  | plain hne h => exact hne
  | hyphen hne h => exact List.cons_ne_nil _ _

/-! ## Reading the word -/

/-- A run of word characters is read to its end. -/
theorem plainRun_eq (h : ∀ c ∈ w, IsWordChar c) (index line column : Nat) {fuel : Nat}
    (hfuel : w.length < fuel) :
    plainRun false fuel ⟨w, index, line, column⟩ =
      some (w, ⟨[], index + w.length, line, column + w.length⟩) := by
  induction w generalizing fuel index column with
  | nil =>
    obtain ⟨fuel, rfl⟩ := Nat.exists_eq_add_of_lt hfuel
    rfl
  | cons ch w ih =>
    obtain ⟨hch, hw⟩ := List.forall_mem_cons.mp h
    obtain ⟨fuel, rfl⟩ : ∃ m, fuel = m + 1 := ⟨fuel - 1, by omega⟩
    have hcolon : ch ≠ ':' := hch.ne (by decide) (by decide)
    have hrest := ih hw (index + 1) (column + 1) (Nat.lt_of_succ_lt_succ hfuel)
    simp only [plainRun, Cursor.head?, List.head?_cons, hch.isBlank, hch.isBreak, hcolon, Cursor.skip,
      List.tail_cons, hrest]
    simp [Nat.add_assoc, Nat.add_comm 1]

/-- A word is no mark between documents. -/
theorem IsWord.seesDocumentMark (h : IsWord w) (index line column : Nat) :
    Cursor.seesDocumentMark ⟨w, index, line, column⟩ = false := by
  have hmark (ch : Char) (hch : ch.isAlphanum = false) : w.take 3 ≠ [ch, ch, ch] := by
    intro htake
    cases h with
    | plain hne h =>
      obtain ⟨c, body, rfl⟩ := List.exists_cons_of_ne_nil hne
      have hc := h c List.mem_cons_self
      rw [(List.cons.inj htake).1, hch] at hc
      cases hc
    | hyphen hne h =>
      obtain ⟨c, body, rfl⟩ := List.exists_cons_of_ne_nil hne
      have hc := h c List.mem_cons_self
      rw [(List.cons.inj (List.cons.inj htake).2).1, hch] at hc
      cases hc
  have hhyphen := hmark '-' (by decide)
  have hdot := hmark '.' (by decide)
  simp [Cursor.seesDocumentMark, Cursor.seesMark, hhyphen, hdot]

namespace Scan

/-- The state before a text. -/
def start (w : List Char) : Scan := { cursor := { rest := w } }

/-- The possible key at the start of a text. -/
def firstKey : PossibleKey := ⟨0, 0, 0, 0, false⟩

/-- The state after a word. -/
def after (w : List Char) (keys : List (Option PossibleKey)) (queue : List Token) (delivered : Nat) :
    Scan where
  cursor := ⟨[], w.length, 0, w.length⟩
  queue := queue
  delivered := delivered
  keyAllowed := false
  keys := keys

/-- Before a word nothing is passed. -/
theorem toNextToken_start (h : IsWord w) (fuel : Nat) : (start w).toNextToken (fuel + 1) = start w := by
  obtain ⟨ch, rest, rfl⟩ := List.exists_cons_of_ne_nil h.ne_nil
  have hch := h.chars ch List.mem_cons_self
  have hmark : ch ≠ '\uFEFF' := hch.ne (by decide) (by decide)
  have hspace : ch ≠ ' ' := hch.ne (by decide) (by decide)
  have hhash : ch ≠ '#' := hch.ne (by decide) (by decide)
  simp [toNextToken, start, Cursor.sees, Cursor.head?, Cursor.skipWhile, Cursor.skipComment,
    Cursor.satisfies, goto, inFlow, hmark, hspace, hhash, hch.isBreak]

/-- A hyphen at the beginning of a word does not stand alone. -/
theorem blankOrEndAt_start (h : IsWord ('-' :: w)) : (start ('-' :: w)).cursor.blankOrEndAt 1 = false := by
  obtain ⟨c, rest, rfl⟩ : ∃ c rest, w = c :: rest := by
    cases h with
    | plain hne h => exact absurd (h '-' List.mem_cons_self) (by decide)
    | hyphen hne h => exact List.exists_cons_of_ne_nil hne
  have hc := h.chars c (List.mem_cons_of_mem _ List.mem_cons_self)
  simp [start, Cursor.blankOrEndAt, hc.isBlank, hc.isBreak]

theorem fetchPlain_start (h : IsWord w) :
    (start w).fetchPlain = some (after w [some firstKey] [.scalar true (String.ofList w)] 0) := by
  have hrun := plainRun_eq h.chars 0 0 0 (Nat.lt_succ_self w.length)
  have hmark := h.seesDocumentMark 0 0 0
  have hsees : Cursor.sees ⟨w, 0, 0, 0⟩ '#' = false := by
    obtain ⟨ch, rest, rfl⟩ := List.exists_cons_of_ne_nil h.ne_nil
    have hhash : ch ≠ '#' := (h.chars ch List.mem_cons_self).ne (by decide) (by decide)
    simp [Cursor.sees, Cursor.head?, hhash]
  simp [fetchPlain, noteKey, dropKey, start, plainText, Cursor.fuel, hrun, hmark, hsees, h.ne_nil, Gap.text,
    Cursor.satisfies, Cursor.head?, goto, emit, after, firstKey, inFlow, column]

theorem startsPlain_start (h : IsWord w) : (start w).startsPlain = true := by
  obtain ⟨ch, rest, rfl⟩ := List.exists_cons_of_ne_nil h.ne_nil
  have hch := h.chars ch List.mem_cons_self
  by_cases hhyphen : ch = '-'
  · subst hhyphen
    have halone := blankOrEndAt_start h
    obtain ⟨c, rest, rfl⟩ : ∃ c more, rest = c :: more := by
      cases rest with
      | nil => cases halone
      | cons c more => exact ⟨c, more, rfl⟩
    have hc := h.chars c (List.mem_cons_of_mem _ List.mem_cons_self)
    simp [startsPlain, start, Cursor.sees, Cursor.head?, hc.isBlank]
  · have halpha : ch.isAlphanum = true := hch.resolve_right hhyphen
    have hindicators : ("-?:,[]\x7b\x7d#&*!|>'\"%@`".toList.all fun d => !d.isAlphanum) = true := by decide
    have hmem : ch ∉ "-?:,[]\x7b\x7d#&*!|>'\"%@`".toList := by
      intro hmem
      have hnot := List.all_eq_true.mp hindicators ch hmem
      rw [halpha] at hnot
      cases hnot
    have hcontains : "-?:,[]\x7b\x7d#&*!|>'\"%@`".toList.contains ch = false := by
      rw [List.contains_eq_mem, decide_eq_false_iff_not]
      exact hmem
    simp only [startsPlain, start, Cursor.blankOrEnd, Cursor.blankOrEndAt, Cursor.satisfies, Cursor.head?,
      List.head?_cons, Option.map_some, Option.getD_some, hcontains]
    simp [hch.isBlank, hch.isBreak]

theorem fetch_start (h : IsWord w) :
    (start w).fetch = some (after w [some firstKey] [.scalar true (String.ofList w)] 0) := by
  have hmarks : ((start w).cursor.seesMark '-' || (start w).cursor.seesMark '.') = false :=
    h.seesDocumentMark 0 0 0
  obtain ⟨hhyphens, hdots⟩ := Bool.or_eq_false_iff.mp hmarks
  have hplain := startsPlain_start h
  have hfetch := fetchPlain_start h
  have hnext := toNextToken_start h w.length
  obtain ⟨ch, rest, rfl⟩ := List.exists_cons_of_ne_nil h.ne_nil
  have hch := h.chars ch List.mem_cons_self
  have hnone : ∀ d, d.isAlphanum = false → d ≠ '-' → ch ≠ d := fun d => hch.ne
  have hentry : (ch = '-' && (start (ch :: rest)).cursor.blankOrEndAt 1) = false := by
    by_cases hhyphen : ch = '-'
    · subst hhyphen
      simp [blankOrEndAt_start h]
    · simp [hhyphen]
  unfold fetch
  rw [show (start (ch :: rest)).cursor.fuel = (ch :: rest).length + 1 from rfl, hnext]
  have hstale : (start (ch :: rest)).dropStale = some (start (ch :: rest)) := rfl
  have hclose : (start (ch :: rest)).close (start (ch :: rest)).column = start (ch :: rest) := rfl
  have hhead : (start (ch :: rest)).cursor.head? = some ch := rfl
  simp only [hstale, Option.bind_eq_bind, Option.bind_some, hclose, hhead, hhyphens, hdots, hentry, hplain,
    hfetch]
  simp [hnone '%' (by decide) (by decide), hnone '[' (by decide) (by decide),
    hnone '\x7b' (by decide) (by decide), hnone ']' (by decide) (by decide),
    hnone '\x7d' (by decide) (by decide), hnone ',' (by decide) (by decide),
    hnone '?' (by decide) (by decide), hnone ':' (by decide) (by decide),
    hnone '*' (by decide) (by decide), hnone '&' (by decide) (by decide),
    hnone '!' (by decide) (by decide), hnone '|' (by decide) (by decide),
    hnone '>' (by decide) (by decide), hnone '"' (by decide) (by decide),
    hnone '\'' (by decide) (by decide)]

/-! ## The end of the text -/

variable {queue : List Token} {delivered : Nat}

/-- The state at the end of a text that is one word. -/
def ended (w : List Char) (queue : List Token) (delivered : Nat) : Scan where
  cursor := ⟨[], w.length, 1, 0⟩
  queue := queue
  delivered := delivered
  keyAllowed := false
  keys := [none]

/-- A word is a possible key as long as it is short enough. -/
theorem dropStale_after (w : List Char) (queue : List Token) (delivered : Nat) :
    (after w [some firstKey] queue delivered).dropStale =
      some (after w [if 1024 < w.length then none else some firstKey] queue delivered) := by
  by_cases hlong : 1024 < w.length
  · simp [dropStale, after, firstKey, hlong]
  · simp [dropStale, after, firstKey, hlong]

theorem dropStale_none (s : Scan) (h : s.keys = [none]) : s.dropStale = some s := by
  obtain ⟨cursor, queue, delivered, indent, outer, keyAllowed, keys⟩ := s
  cases h
  rfl

/-- After a word the text ends, and the word is no key. -/
theorem fetch_after (hne : w ≠ []) {key : Option PossibleKey} (hkey : key = none ∨ key = some firstKey)
    (hstale : (after w [key] queue delivered).dropStale = some (after w [key] queue delivered)) :
    (after w [key] queue delivered).fetch = some (ended w (queue ++ [.streamEnd]) delivered) := by
  have hcolumn : w.length ≠ 0 := fun hlength => hne (List.length_eq_zero_iff.mp hlength)
  have hnext : (after w [key] queue delivered).toNextToken (after w [key] queue delivered).cursor.fuel =
      after w [key] queue delivered := by
    simp [toNextToken, after, Cursor.fuel, Cursor.sees, Cursor.head?, Cursor.skipWhile, Cursor.skipComment,
      Cursor.satisfies, goto, hcolumn]
  unfold fetch
  rw [hnext, hstale]
  show Scan.fetchEnd _ = _
  rcases hkey with rfl | rfl
  · simp [fetchEnd, after, ended, close, closeBlocks, goto, emit, dropKey, hcolumn]
  · simp [fetchEnd, after, ended, close, closeBlocks, goto, emit, dropKey, firstKey, hcolumn]

/-! ## Delivery -/

variable {s s' : Scan} {token : Token} {fuel : Nat}

/-- Where no token is ready one is fetched. -/
theorem tokens_of_nil (hqueue : s.queue = []) (hfetch : s.fetch = some s') :
    tokens (fuel + 1) s = tokens fuel s' := by
  rw [tokens, hqueue]
  dsimp only
  rw [hfetch]

/-- Where the first token may still be a key another one is fetched. -/
theorem tokens_of_held (hqueue : s.queue = token :: queue) (hstale : s.dropStale = some s)
    (hheld : s.isHeld = true) (hfetch : s.fetch = some s') : tokens (fuel + 1) s = tokens fuel s' := by
  rw [tokens, hqueue]
  dsimp only
  rw [hstale]
  dsimp only
  rw [if_pos hheld, hfetch]

/-- Any other first token is delivered. -/
theorem tokens_of_ready (hqueue : s.queue = token :: queue) (hstale : s.dropStale = some s')
    (hheld : s'.isHeld = false) (htoken : token ≠ .streamEnd) :
    tokens (fuel + 1) s =
      token :: tokens fuel { s' with queue := queue, delivered := s'.delivered + 1 } := by
  rw [tokens, hqueue]
  dsimp only
  rw [hstale]
  dsimp only
  rw [if_neg (Bool.eq_false_iff.mp hheld), if_neg htoken]

theorem tokens_ended (w : List Char) (fuel delivered : Nat) :
    tokens (fuel + 1) (ended w [.streamEnd] delivered) = [.streamEnd] := by
  simp [tokens, ended, dropStale, isHeld]

/-- A text that is one word has one token, and ends. -/
theorem tokens_start (h : IsWord w) (fuel : Nat) :
    tokens (fuel + 5) (start w) = [.scalar true (String.ofList w), .streamEnd] := by
  rw [tokens_of_nil rfl (fetch_start h)]
  have hstale := dropStale_after w [.scalar true (String.ofList w)] 0
  by_cases hlong : 1024 < w.length
  · -- the word is delivered, and then the end is fetched
    rw [if_pos hlong] at hstale
    rw [tokens_of_ready rfl hstale rfl nofun]
    have hend : tokens (fuel + 3) (after w [none] [] 1) = [.streamEnd] := by
      rw [tokens_of_nil rfl (fetch_after h.ne_nil (Or.inl rfl) (dropStale_none _ rfl))]
      exact tokens_ended w _ 1
    exact congrArg _ hend
  · -- the end is fetched, and then the word is no longer held back
    rw [if_neg hlong] at hstale
    rw [tokens_of_held rfl hstale rfl (fetch_after h.ne_nil (Or.inr rfl) hstale)]
    have hready : tokens (fuel + 3) (ended w [.scalar true (String.ofList w), .streamEnd] 0) =
        .scalar true (String.ofList w) :: tokens (fuel + 2) (ended w [.streamEnd] 1) :=
      tokens_of_ready rfl (dropStale_none _ rfl) rfl nofun
    exact hready.trans (congrArg _ (tokens_ended w _ 1))

end Scan

/-- The tokens of a text that is one word. -/
theorem Token.all_word (h : IsWord w) : Token.all w = [.scalar true (String.ofList w), .streamEnd] := by
  have hallowed : w.all isAllowed = true := List.all_eq_true.mpr fun c hc => (h.chars c hc).isAllowed
  rw [Token.all, hallowed]
  exact Scan.tokens_start h _

/-- A text that is one word is read as this word. -/
theorem read_word (h : IsWord w) :
    read (String.ofList w) = ⟨.yaml, .scalar (.word none true (String.ofList w)), false⟩ := by
  rw [read, String.toList_ofList, Token.all_word h]
  rfl

end DottedQuery.Document.Yaml
