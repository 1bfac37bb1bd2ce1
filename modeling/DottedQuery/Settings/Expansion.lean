/-
# DottedQuery.Settings.Expansion -- variables in settings

In a path of the settings `$name` and `${name}` stand for variables of the environment. A
text is read once from left to right into fragments; the value of a variable is put in as
it is and not read again.
-/
import DottedQuery.Text.Alphanumeric

namespace DottedQuery

/-- Variables by name. -/
abbrev Environment := String → Option String

/-- A part of a text with variables. -/
inductive Fragment where
  | literal (c : Char)
  | reference (name : String)
  deriving DecidableEq, Repr

namespace Fragment

/-- A character of a name without braces. -/
def isNameChar (c : Char) : Bool := Text.isAlphanumeric c || c = '_'

/-- The name in braces after its opening brace, and what follows. A name that is never
closed goes on to the end. -/
def bracedName : List Char → List Char × List Char
  | [] => ([], [])
  | c :: rest =>
    if c = '\x7d' then ([], rest)
    else
      let (name, after) := bracedName rest
      (c :: name, after)

/-- The longest name at the start, and what follows. -/
def bareName : List Char → List Char × List Char
  | [] => ([], [])
  | c :: rest =>
    if isNameChar c then
      let (name, after) := bareName rest
      (c :: name, after)
    else ([], c :: rest)

theorem length_bracedName (s : List Char) : (bracedName s).2.length ≤ s.length := by
  induction s with
  | nil => simp [bracedName]
  | cons c rest ih =>
    unfold bracedName
    split
    · simp
    · exact Nat.le_succ_of_le ih

theorem length_bareName (s : List Char) : (bareName s).2.length ≤ s.length := by
  induction s with
  | nil => simp [bareName]
  | cons c rest ih =>
    unfold bareName
    split
    · exact Nat.le_succ_of_le ih
    · simp

/-- The fragments of a text. A dollar sign that no name follows stands for itself. -/
def ofChars : List Char → List Fragment
  | [] => []
  | c :: rest =>
    if c ≠ '$' then literal c :: ofChars rest
    else
      match rest with
      | [] => [literal '$']
      | d :: tail =>
        if d = '\x7b' then
          have := length_bracedName tail
          reference (String.ofList (bracedName tail).1) :: ofChars (bracedName tail).2
        else if (bareName (d :: tail)).1.isEmpty then literal '$' :: ofChars (d :: tail)
        else
          have := length_bareName (d :: tail)
          reference (String.ofList (bareName (d :: tail)).1) :: ofChars (bareName (d :: tail)).2
  termination_by s => s.length
  decreasing_by all_goals simp_all <;> omega

/-- The characters that a fragment stands for, or the name of a variable that is not
set. -/
def expand (environment : Environment) : Fragment → Except String (List Char)
  | literal c => .ok [c]
  | reference name =>
    match environment name with
    | some value => .ok value.toList
    | none => .error name

end Fragment

/-- Puts in the values of all variables, or names the first that is not set. -/
def expandVariables (environment : Environment) (s : String) : Except String String := do
  let parts ← (Fragment.ofChars s.toList).mapM (Fragment.expand environment)
  return String.ofList parts.flatten

end DottedQuery
