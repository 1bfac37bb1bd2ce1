/-
# DottedQuery.Proofs.Sql.Tokens -- texts of statements as tokens

A text is read from left to right, one character at a time, and nothing else is known about it than
the mark around identifiers. Between two marks everything belongs to an identifier, and a mark that is
written twice stands for itself. Outside of marks there are words, numbers, placeholders and signs.
`run` is this reader, a machine whose state is the token that it is in the middle of.

A token is over when a character comes that cannot belong to it, so a text can be cut wherever the
token before the cut ends there (`tokens?_append`). That an identifier between quotes is such a token
whatever characters it holds is `run_quoteChars`: a reader that has seen the second of two marks is
inside again, and the mark that ends the identifier is followed by something else. A statement is
written so that each of its pieces ends where the next one begins (`tidy`), so its text is read as the
tokens of its pieces (`tokens?_textFrom`), whatever the names in it are.
-/
import DottedQuery.Proofs.Text.Letters
import DottedQuery.Sql.Statement

namespace DottedQuery.Sql

open Piece (words name operand textFrom)

/-! ## Tokens -/

/-- What a token outside of marks is made of. -/
inductive Kind where
  | word
  | number
  /-- A question mark or a dollar sign, and digits. -/
  | placeholder
  /-- Signs of comparison. -/
  | sign
  /-- Any other character, by itself. -/
  | point
  deriving DecidableEq, Repr

/-- A token of a statement. -/
inductive Token where
  /-- What stands between marks. -/
  | name (identifier : String)
  | plain (kind : Kind) (text : String)
  deriving DecidableEq, Repr

namespace Token

@[match_pattern] abbrev word (text : String) : Token := plain .word text
@[match_pattern] abbrev number (text : String) : Token := plain .number text
@[match_pattern] abbrev placeholder (text : String) : Token := plain .placeholder text
@[match_pattern] abbrev sign (text : String) : Token := plain .sign text
@[match_pattern] abbrev point (text : String) : Token := plain .point text

end Token

/-- Whether the character is one of which signs of comparison are made. -/
def isSign (c : Char) : Bool := c = '<' || c = '>' || c = '='

namespace Kind

/-- The kind of token that begins with a character. -/
def ofChar (c : Char) : Kind :=
  if c.isAlpha then word
  else if c.isDigit then number
  else if c = '?' || c = '$' then placeholder
  else if isSign c then sign
  else point

/-- Whether a token of this kind goes on with a character. -/
def goesOn : Kind → Char → Bool
  | word, c => c.isAlphanum || c = '_'
  | number, c | placeholder, c => c.isDigit
  | sign, c => isSign c
  | point, _ => false

end Kind

/-! ## The reader -/

/-- What a reader is in the middle of, with the characters that it has read of it. -/
inductive Pending where
  | blank
  | part (kind : Kind) (chars : List Char)
  /-- Inside of marks. -/
  | quoted (chars : List Char)
  /-- After a mark inside of marks: it is the last one, unless another follows. -/
  | closing (chars : List Char)
  deriving DecidableEq, Repr

namespace Pending

/-- What begins with a character. -/
def ofChar (mark c : Char) : Pending :=
  if c = mark then quoted []
  else if c = ' ' then blank
  else part (Kind.ofChar c) [c]

/-- The token that is there if the text ends here. -/
def tokens : Pending → List Token
  | blank | quoted _ => []
  | part kind chars => [.plain kind (String.ofList chars)]
  | closing chars => [.name (String.ofList chars)]

/-- Reads one character: the tokens that it ends, and what the reader is in the middle of then. -/
def step (mark : Char) : Pending → Char → List Token × Pending
  | blank, c => ([], ofChar mark c)
  | part kind chars, c =>
    if kind.goesOn c then ([], part kind (chars ++ [c]))
    else ([.plain kind (String.ofList chars)], ofChar mark c)
  | quoted chars, c => ([], if c = mark then closing chars else quoted (chars ++ [c]))
  | closing chars, c =>
    if c = mark then ([], quoted (chars ++ [c]))
    else ([.name (String.ofList chars)], ofChar mark c)

/-- Whether the text may not end here. -/
def isQuoted : Pending → Bool
  | quoted _ => true
  | blank | part _ _ | closing _ => false

/-- Whether what is pending ends here, whatever follows. -/
def isSettled : Pending → Bool
  | blank | part .point _ => true
  | part _ _ | quoted _ | closing _ => false

/-- Whether what is pending ends before this text. -/
def endsBefore (mark : Char) (p : Pending) : List Char → Bool
  | [] => !p.isQuoted
  | c :: _ => decide (p.step mark c = (p.tokens, ofChar mark c))

end Pending

/-- Reads characters one after the other. -/
def run (mark : Char) (p : Pending) : List Char → List Token × Pending
  | [] => ([], p)
  | c :: rest =>
    let (ended, p) := p.step mark c
    let (more, p) := run mark p rest
    (ended ++ more, p)

/-- The tokens of a text that has been read to its end. A text does not end inside of marks. -/
def finish (ended : List Token) (p : Pending) : Option (List Token) :=
  if p.isQuoted then none else some (ended ++ p.tokens)

/-- The tokens of a text. -/
def tokens? (mark : Char) (text : List Char) : Option (List Token) :=
  finish (run mark .blank text).1 (run mark .blank text).2

/-- What is read of a text by itself. -/
def tokensOf (mark : Char) (text : List Char) : List Token :=
  (run mark .blank text).1 ++ (run mark .blank text).2.tokens

variable {mark c : Char} {p : Pending} {xs ys : List Char} {d : Dialect} {number : Nat}
  {rest pieces : List Piece}

/-! ## Reading a text in two parts -/

theorem run_cons (mark : Char) (p : Pending) (c : Char) (rest : List Char) :
    run mark p (c :: rest) = ((p.step mark c).1 ++ (run mark (p.step mark c).2 rest).1,
      (run mark (p.step mark c).2 rest).2) := rfl

theorem run_append (mark : Char) (p : Pending) (xs ys : List Char) :
    run mark p (xs ++ ys) = ((run mark p xs).1 ++ (run mark (run mark p xs).2 ys).1,
      (run mark (run mark p xs).2 ys).2) := by
  induction xs generalizing p with
  | nil => rfl
  | cons c xs ih =>
    rw [List.cons_append, run_cons, ih, run_cons]
    simp only [List.append_assoc]

theorem finish_append (ended more : List Token) (p : Pending) :
    finish (ended ++ more) p = (finish more p).map (ended ++ ·) := by
  unfold finish
  split
  · rfl
  · rw [Option.map_some, List.append_assoc]

/-- Where the pending token ends, reading goes on as if it started there. -/
theorem finish_run_of_endsBefore (h : p.endsBefore mark ys = true) :
    finish (run mark p ys).1 (run mark p ys).2 = (tokens? mark ys).map (p.tokens ++ ·) := by
  cases ys with
  | nil =>
    have hp : p.isQuoted = false := by simpa only [Pending.endsBefore, Bool.not_eq_true'] using h
    rw [run, finish, hp]
    exact congrArg some (List.append_nil _).symm
  | cons c ys =>
    have hstep : p.step mark c = (p.tokens, .ofChar mark c) := of_decide_eq_true h
    have hblank : Pending.blank.step mark c = ([], .ofChar mark c) := rfl
    rw [tokens?, run_cons, run_cons, hstep, hblank]
    exact finish_append ..

/-- A text is read in two parts if the first one ends before the second. -/
theorem tokens?_append (h : (run mark .blank xs).2.endsBefore mark ys = true) :
    tokens? mark (xs ++ ys) = (tokens? mark ys).map (tokensOf mark xs ++ ·) := by
  rw [tokens?, run_append, finish_append, finish_run_of_endsBefore h, Option.map_map]
  refine congrArg (Option.map · _) (funext fun more => ?_)
  exact (List.append_assoc ..).symm

/-! ## Where a token ends -/

theorem endsBefore_of_settled (h : p.isSettled = true) (mark : Char) (ys : List Char) :
    p.endsBefore mark ys = true := by
  cases p with
  | blank => cases ys <;> simp [Pending.endsBefore, Pending.isQuoted, Pending.step, Pending.tokens]
  | part kind chars =>
    cases kind with
    | point =>
      cases ys with
      | nil => rfl
      | cons c ys => simp [Pending.endsBefore, Pending.step, Kind.goesOn, Pending.tokens]
    | word | number | placeholder | sign => cases h
  | quoted chars => cases h
  | closing chars => cases h

/-- The characters that end every token outside of marks. -/
def isBreak (c : Char) : Bool := c = ' ' || c = '.' || c = ',' || c = ')'

/-- A break belongs to no token and is no mark. -/
theorem endsBefore_of_break (hc : isBreak c = true) (hp : p.isQuoted = false) (d : Dialect) :
    p.endsBefore d.quoteMark (c :: ys) = true := by
  have hcases : ((c = ' ' ∨ c = '.') ∨ c = ',') ∨ c = ')' := by
    simpa [isBreak] using hc
  have hmark : c ≠ d.quoteMark := by
    rcases hcases with ((rfl | rfl) | rfl) | rfl <;> cases d <;> decide
  refine decide_eq_true ?_
  cases p with
  | blank => rfl
  | quoted chars => cases hp
  | closing chars => rw [Pending.step, if_neg hmark, Pending.tokens]
  | part kind chars =>
    have hends : kind.goesOn c = false := by
      rcases hcases with ((rfl | rfl) | rfl) | rfl <;> cases kind <;> decide
    rw [Pending.step, hends]
    rfl

/-! ## Identifiers and placeholders -/

theorem run_quoted (mark : Char) (chars identifier : List Char) :
    run mark (.quoted chars) (identifier.flatMap (Dialect.quoteChar mark)) =
      ([], .quoted (chars ++ identifier)) := by
  induction identifier generalizing chars with
  | nil => rw [List.append_nil, List.flatMap_nil, run]
  | cons c identifier ih =>
    rw [List.flatMap_cons, run_append]
    by_cases hc : c = mark
    -- the first of two marks seems to end the identifier, the second one takes it up again
    · subst hc
      have hpair : run c (.quoted chars) [c, c] = ([], .quoted (chars ++ [c])) := by
        simp [run, Pending.step]
      rw [Dialect.quoteChar, if_pos rfl, hpair, ih, List.append_assoc]
      rfl
    · have hone : run mark (.quoted chars) [c] = ([], .quoted (chars ++ [c])) := by
        simp [run, Pending.step, hc]
      rw [Dialect.quoteChar, if_neg hc, hone, ih, List.append_assoc]
      rfl

/-- An identifier between quotes is read as itself, whatever its characters are. -/
theorem run_quoteChars (d : Dialect) (identifier : List Char) :
    run d.quoteMark .blank (d.quoteChars identifier) = ([], .closing identifier) := by
  have hopen : Pending.blank.step d.quoteMark d.quoteMark = ([], .quoted []) := by
    simp [Pending.step, Pending.ofChar]
  rw [Dialect.quoteChars, run_cons, hopen, run_append, run_quoted]
  simp [run, Pending.step]

/-- Characters with which a token goes on belong to it. -/
theorem run_part {kind : Kind} (mark : Char) (chars more : List Char)
    (h : ∀ c ∈ more, kind.goesOn c = true) :
    run mark (.part kind chars) more = ([], .part kind (chars ++ more)) := by
  induction more generalizing chars with
  | nil => rw [List.append_nil, run]
  | cons c more ih =>
    obtain ⟨hc, hmore⟩ := List.forall_mem_cons.mp h
    rw [run_cons, Pending.step, if_pos hc, ih _ hmore, List.append_assoc]
    rfl

/-- A placeholder is one token, however many digits its number has. -/
theorem run_placeholder (d : Dialect) (number : Nat) :
    run d.quoteMark .blank (d.placeholder number).toList =
      ([], .part .placeholder (d.placeholder number).toList) := by
  cases d with
  | sqlite | mysql | duckdb =>
    have hchars : "?".toList = ['?'] := rfl
    rw [Dialect.placeholder, hchars]
    rfl
  | postgres =>
    have hchars : (Dialect.postgres.placeholder number).toList = '$' :: (toString number).toList := by
      rw [Dialect.placeholder, String.toList_append]
      rfl
    have hdollar : Pending.blank.step Dialect.postgres.quoteMark '$' =
        ([], .part .placeholder ['$']) := rfl
    have hgo : ∀ c ∈ (toString number).toList, Kind.placeholder.goesOn c = true :=
      fun c hc => Text.isDigit_of_mem_repr hc
    rw [hchars, run_cons, hdollar, run_part _ _ _ hgo]
    rfl

/-! ## Pieces that end where the next one begins -/

/-- Whether pieces begin with a break, if there are any. -/
def breaks : List Piece → Bool
  | [] => true
  | words text :: _ => text.toList.head?.any isBreak
  | name _ :: _ | operand _ :: _ => false

/-- Whether each piece ends where the next one begins. -/
def tidy (d : Dialect) : List Piece → Bool
  | [] => true
  | words text :: rest =>
    let p := (run d.quoteMark .blank text.toList).2
    (p.isSettled || (!p.isQuoted && breaks rest)) && tidy d rest
  | name _ :: rest | operand _ :: rest => breaks rest && tidy d rest

/-- The tokens of pieces, with `number` for the first operand. -/
def tokensFrom (d : Dialect) (number : Nat) : List Piece → List Token
  | [] => []
  | words text :: rest => tokensOf d.quoteMark text.toList ++ tokensFrom d number rest
  | name identifier :: rest => .name identifier :: tokensFrom d number rest
  | operand _ :: rest =>
    .placeholder (d.placeholder number) :: tokensFrom d (number + 1) rest

/-- What is not inside of marks ends before pieces that begin with a break. -/
theorem endsBefore_textFrom (h : breaks rest = true) (hp : p.isQuoted = false) (number : Nat) :
    p.endsBefore d.quoteMark (textFrom d number rest) = true := by
  cases rest with
  | nil =>
    rw [textFrom, Pending.endsBefore, hp]
    rfl
  | cons piece rest =>
    cases piece with
    | name identifier => cases h
    | operand value => cases h
    | words text =>
      rw [breaks] at h
      rw [textFrom]
      cases htext : text.toList with
      | nil =>
        rw [htext] at h
        cases h
      | cons c chars =>
        rw [htext] at h
        exact endsBefore_of_break h hp d

/-- The text of tidy pieces is read as their tokens. -/
theorem tokens?_textFrom (h : tidy d pieces = true) :
    tokens? d.quoteMark (textFrom d number pieces) = some (tokensFrom d number pieces) := by
  induction pieces generalizing number with
  | nil => rfl
  | cons piece rest ih =>
    cases piece with
    | words text =>
      obtain ⟨hends, hrest⟩ := Bool.and_eq_true_iff.mp h
      rw [textFrom, tokens?_append, ih hrest]
      · rfl
      · rcases Bool.or_eq_true_iff.mp hends with hsettled | hbreaks
        · exact endsBefore_of_settled hsettled _ _
        · obtain ⟨hquoted, hbreaks⟩ := Bool.and_eq_true_iff.mp hbreaks
          exact endsBefore_textFrom hbreaks (by simpa using hquoted) _
    | name identifier =>
      obtain ⟨hbreaks, hrest⟩ := Bool.and_eq_true_iff.mp h
      rw [textFrom, tokens?_append, ih hrest]
      · rw [tokensOf, run_quoteChars]
        simp [Pending.tokens, tokensFrom]
      · rw [run_quoteChars]
        exact endsBefore_textFrom hbreaks rfl _
    | operand value =>
      obtain ⟨hbreaks, hrest⟩ := Bool.and_eq_true_iff.mp h
      rw [textFrom, tokens?_append, ih hrest]
      · rw [tokensOf, run_placeholder]
        simp [Pending.tokens, tokensFrom]
      · rw [run_placeholder]
        exact endsBefore_textFrom hbreaks rfl _

/-! ## Groups of pieces -/

/-- Words that end with a space end wherever they are. -/
theorem tidy_words {text : String} (h : (run d.quoteMark .blank text.toList).2.isSettled = true) :
    tidy d (words text :: rest) = tidy d rest := by
  rw [tidy, h, Bool.true_or, Bool.true_and]

theorem breaks_append (hrest : breaks rest = true) (h : breaks pieces = true) :
    breaks (pieces ++ rest) = true := by
  cases pieces with
  | nil => exact hrest
  | cons piece pieces =>
    cases piece with
    | words text => exact h
    | name identifier => cases h
    | operand value => cases h

/-- A group of pieces ends before pieces that begin with a break. -/
theorem tidy_append (h : tidy d pieces = true) (hbreaks : breaks rest = true)
    (hrest : tidy d rest = true) : tidy d (pieces ++ rest) = true := by
  induction pieces with
  | nil => exact hrest
  | cons piece pieces ih =>
    cases piece with
    | words text =>
      obtain ⟨hends, hpieces⟩ := Bool.and_eq_true_iff.mp h
      refine Bool.and_eq_true_iff.mpr ⟨?_, ih hpieces⟩
      rcases Bool.or_eq_true_iff.mp hends with hsettled | hmore
      · exact Bool.or_eq_true_iff.mpr (.inl hsettled)
      · obtain ⟨hquoted, hmore⟩ := Bool.and_eq_true_iff.mp hmore
        exact Bool.or_eq_true_iff.mpr
          (.inr (Bool.and_eq_true_iff.mpr ⟨hquoted, breaks_append hbreaks hmore⟩))
    | name identifier | operand value =>
      obtain ⟨hmore, hpieces⟩ := Bool.and_eq_true_iff.mp h
      exact Bool.and_eq_true_iff.mpr ⟨breaks_append hbreaks hmore, ih hpieces⟩

/-- Groups that begin with a break and are tidy by themselves. -/
theorem tidy_flatMap {α : Type} {write : α → List Piece} (hbreaks : ∀ x, breaks (write x) = true)
    (htidy : ∀ x, tidy d (write x) = true) (xs : List α) :
    breaks (xs.flatMap write) = true ∧ tidy d (xs.flatMap write) = true := by
  induction xs with
  | nil => exact ⟨rfl, rfl⟩
  | cons x xs ih =>
    rw [List.flatMap_cons]
    exact ⟨breaks_append ih.1 (hbreaks x), tidy_append (htidy x) ih.1 ih.2⟩

/-- The operands of the first group are numbered before those of the second. -/
theorem tokensFrom_append (d : Dialect) (number : Nat) (xs ys : List Piece) :
    tokensFrom d number (xs ++ ys) = tokensFrom d number xs ++
      tokensFrom d (number + (xs.filterMap Piece.operand?).length) ys := by
  induction xs generalizing number with
  | nil => rfl
  | cons piece xs ih =>
    cases piece with
    | words text =>
      rw [List.cons_append, tokensFrom, ih, tokensFrom, List.append_assoc]
      rfl
    | name identifier =>
      rw [List.cons_append, tokensFrom, ih]
      rfl
    | operand value =>
      rw [List.cons_append, tokensFrom, ih]
      simp only [tokensFrom, Piece.operand?, List.filterMap_cons, List.length_cons,
        List.cons_append, Nat.add_assoc, Nat.add_comm 1]

/-- Groups without operands are read alike wherever they stand. -/
theorem tokensFrom_flatMap {α : Type} {write : α → List Piece} {read : α → List Token}
    (hread : ∀ x number, tokensFrom d number (write x) = read x)
    (hnone : ∀ x, (write x).filterMap Piece.operand? = []) (xs : List α) (number : Nat) :
    tokensFrom d number (xs.flatMap write) = xs.flatMap read := by
  induction xs with
  | nil => rfl
  | cons x xs ih =>
    rw [List.flatMap_cons, tokensFrom_append, hread, hnone, List.flatMap_cons]
    exact congrArg _ ih

end DottedQuery.Sql
