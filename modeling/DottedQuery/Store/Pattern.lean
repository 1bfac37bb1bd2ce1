/-
# DottedQuery.Store.Pattern -- texts that match a pattern

In one style of patterns a percent sign stands for any characters and an underscore for one,
and the case of ASCII letters does not count. In the other style, that of file names, it is a
star and a question mark, there are sets of characters in brackets, and case counts.
-/
import DottedQuery.Store.Arithmetic

namespace DottedQuery.Store

namespace Cell

/-! ## Patterns -/

/-- Whether a character is in a set, from the set up to its closing bracket, and what follows
the bracket. `prior` is where a range may begin. -/
def inSet (c : Char) (prior : Option Char) (found : Bool) :
    List Char → Option (Bool × List Char)
  | [] => none
  | ']' :: rest => some (found, rest)
  | '-' :: d :: rest =>
    match prior with
    | some from' =>
      if d = ']' then some (found || c = '-', rest)
      else inSet c none (found || (from' ≤ c && c ≤ d)) rest
    | none => inSet c (some '-') (found || c = '-') (d :: rest)
  | d :: rest => inSet c (some d) (found || c = d) rest

/-- Whether a character is in the set at the head of a pattern, after its opening bracket, and
the pattern after the set. -/
def inSetAt (c : Char) (pattern : List Char) : Option (Bool × List Char) :=
  let (denied, pattern) :=
    match pattern with
    | '^' :: rest => (true, rest)
    | pattern => (false, pattern)
  let found :=
    match pattern with
    | ']' :: rest => inSet c none (c = ']') rest
    | pattern => inSet c none false pattern
  found.map fun (found, rest) => (found != denied, rest)

/-- How a text matches a pattern. -/
structure PatternStyle where
  /-- Stands for any characters. -/
  many : Char
  /-- Stands for one character. -/
  one : Char
  /-- Makes the character after it stand for itself. -/
  escape : Option Char
  /-- Whether sets of characters are in brackets. -/
  sets : Bool
  ignoresCase : Bool

/-- Whether a text matches a pattern; at most so many steps are taken. -/
def fits (style : PatternStyle) : Nat → List Char → List Char → Bool
  | 0, _, _ => false
  | _ + 1, [], s => s.isEmpty
  | limit + 1, p :: pattern, s =>
    if some p = style.escape then
      match pattern, s with
      | q :: pattern, c :: rest => same q c && fits style limit pattern rest
      | _, _ => false
    else if p = style.many then
      fits style limit pattern s ||
        match s with
        | _ :: rest => fits style limit (p :: pattern) rest
        | [] => false
    else
      match s with
      | [] => false
      | c :: rest =>
        if p = style.one then fits style limit pattern rest
        else if style.sets && p = '[' then
          match inSetAt c pattern with
          | some (true, pattern) => fits style limit pattern rest
          | _ => false
        else same p c && fits style limit pattern rest
where
  same (a b : Char) : Bool := if style.ignoresCase then a.toLower = b.toLower else a = b

/-- Whether a text matches a pattern. -/
def matchesPattern (style : PatternStyle) (pattern cell : Cell) : Cell :=
  match pattern, cell with
  | null, _ | _, null => null
  | pattern, cell =>
    let p := pattern.visibleChars
    let s := cell.visibleChars
    ofTruth (some (fits style (p.length + s.length + 1) p s))

/-- The style of patterns with a percent sign and an underscore. -/
def likeStyle (escape : Option Char) : PatternStyle := ⟨'%', '_', escape, false, true⟩

/-- The style of patterns of file names. -/
def globStyle : PatternStyle := ⟨'*', '?', none, true, false⟩

end Cell

end DottedQuery.Store
