/-
# DottedQuery.Store.Expression -- expressions in definitions

An expression is a value, a name, or an operation on other expressions. As it is read, its
names are kept as they stand; what they mean is settled when all columns of the table are
known. From then on it holds columns by their positions, and all that is left of rows and
ranges of values is what is compared with what.
-/
import DottedQuery.Plan.Condition
import DottedQuery.Store.Affinity
import DottedQuery.Store.Token

namespace DottedQuery.Store

/-! ## Operations -/

/-- What can be said of a call beside the operands. -/
inductive CallClause where
  /-- That equal operands count once. -/
  | distinct
  /-- In which order rows count. -/
  | ordered
  /-- Which rows count. -/
  | filtered
  /-- Which rows around each count for it. -/
  | windowed
  deriving DecidableEq, Repr

/-- What an expression does with the values of its parts. -/
inductive Operation where
  | negate
  /-- Gives the value, but not the preference of its column. -/
  | keep
  | invert
  | not
  | and
  | or
  | compare (comparison : Comparison)
  /-- Whether two values are equal or both null. -/
  | same
  /-- Whether two values are neither equal nor both null. -/
  | differ
  /-- Whether a value is true, or whether it is false. -/
  | truth (expected : Bool)
  /-- Whether a value is neither less nor greater than two others. -/
  | between
  | add
  | subtract
  | multiply
  | divide
  | remainder
  | join
  | bitAnd
  | bitOr
  | shiftLeft
  | shiftRight
  | collate (collation : Collation)
  | cast (affinity : Affinity)
  /-- Whether the first value is one of the others. -/
  | among
  /-- Conditions, each with a value, and perhaps one more value at the end. Where `compared`
  holds, the conditions are values that the first of all is compared with. -/
  | choose (compared : Bool)
  | call (name : Token)
  /-- A call of which more is said. -/
  | callWith (name : Token) (clause : CallClause)
  /-- Several values, which can only be compared. -/
  | row
  /-- What can stand in a definition, but has no value. -/
  | flawed (message : String)
  deriving DecidableEq, Repr

/-! ## Expressions -/

/-- An expression. -/
inductive Expression where
  | cell (cell : Cell)
  | truth (value : Bool)
  /-- A name as it stands, with the names of a table and a database before it. -/
  | name (qualifiers : List Token) (token : Token)
  /-- A column by its position. After the columns comes the key of the record. -/
  | column (position : Nat)
  /-- What cannot stand in a definition, and its place. -/
  | barred (what : String) (offset : Option Nat)
  | apply (operation : Operation) (operands : List Expression)

namespace Expression

/-- The opposite of a truth. -/
def not (e : Expression) : Expression := apply .not [e]

/-- An operation on two expressions. -/
def both (operation : Operation) (a b : Expression) : Expression := apply operation [a, b]

/-- A literal that says the truth value without more. -/
def isPlainTruth (expected : Bool) : Expression → Bool
  | truth value => value = expected
  | cell (.int n) => (n ≠ 0) = expected
  | _ => false

/-- That two conditions hold. Where one of them never does, the other is left out. -/
def conjunction (a b : Expression) : Expression :=
  if a.isPlainTruth false || b.isPlainTruth false then cell (.int 0) else both .and a b

mutual
/-- An expression and all expressions in it. -/
def parts : Expression → List Expression
  | apply operation operands => apply operation operands :: partsOf operands
  | cell c => [cell c]
  | truth b => [truth b]
  | name qualifiers token => [name qualifiers token]
  | column position => [column position]
  | barred what offset => [barred what offset]

/-- Several expressions and all expressions in them. -/
def partsOf : List Expression → List Expression
  | [] => []
  | e :: rest => parts e ++ partsOf rest
end

/-- The columns that occur in an expression, by their positions. -/
def mentioned (e : Expression) : List Nat :=
  e.parts.filterMap fun
    | column position => some position
    | _ => none

mutual
/-- An expression put together again from its parts, each of which may be changed. -/
def rebuilt {m : Type → Type} [Monad m] (change : Expression → m Expression) :
    Expression → m Expression
  | apply operation operands => do change (apply operation (← rebuiltAll change operands))
  | cell c => change (cell c)
  | truth b => change (truth b)
  | name qualifiers token => change (name qualifiers token)
  | column position => change (column position)
  | barred what offset => change (barred what offset)

/-- Several expressions put together again. -/
def rebuiltAll {m : Type → Type} [Monad m] (change : Expression → m Expression) :
    List Expression → m (List Expression)
  | [] => return []
  | e :: rest => do return (← rebuilt change e) :: (← rebuiltAll change rest)
end

/-! ## Heights and places -/

mutual
/-- How many operations lie on top of each other. The opposite of a comparison is a comparison
itself. -/
def height : Expression → Nat
  | apply .not [apply (.compare _) operands] => heightOf operands + 1
  | apply _ operands => heightOf operands + 1
  | _ => 1

/-- The greatest height among expressions. -/
def heightOf : List Expression → Nat
  | [] => 0
  | e :: rest => max (height e) (heightOf rest)
end

/-- The place in the text that a fault of an expression is told with, if there is one: that of
the name or the call where its leftmost parts begin. -/
def offset? : Expression → Option Nat
  | name qualifiers token => some (qualifiers.headD token).offset
  | barred _ offset => offset
  | apply (.call t) _ | apply (.callWith t _) _ => some t.offset
  | apply .row _ | apply (.choose false) _ => none
  | apply _ (e :: _) => offset? e
  | _ => none

/-! ## Truth values -/

/-- The truth value that a word stands for, unless it is the name of a column. -/
def truthOf? (t : Token) : Option Bool :=
  if t.isWord "true" then some true else if t.isWord "false" then some false else none

/-! ## Literals -/

/-- What has no value, for this reason. -/
def flawed (message : String) : Expression := apply (.flawed message) []

/-- The number that a token spells. Hexadecimal digits spell an integer in two's complement. -/
def ofNumber (negative : Bool) (t : Token) : Expression :=
  let digits := t.spelling.filter (· ≠ '_')
  let sign := if negative then "-" else ""
  let tooBig := flawed ("hex literal too big: " ++ sign ++ String.ofList digits)
  let hex? :=
    match digits with
    | '0' :: mark :: rest => if mark = 'x' || mark = 'X' then Text.hexNumber? rest else none
    | _ => none
  match hex? with
  | some n =>
    if UInt64.size ≤ n || (negative && 2 * n = UInt64.size) then tooBig
    else
      let n := if UInt64.size ≤ 2 * n then (n : Int) - UInt64.size else n
      cell (.int (Int64.ofInt (if negative then -n else n)))
  | none => ((Cell.ofUnsigned? negative digits).map cell).getD (flawed "no number")

/-- A text as a value. -/
def ofText (text : String) : Expression := cell (.text (Text.toUtf8 text))

/-- The value that a token spells. A word for a time is a function. -/
def ofToken (t : Token) : Expression :=
  if t.kind = .number then ofNumber false t
  else if t.isWord "null" then cell .null
  else if t.kind = .text then ofText t.name
  else if t.kind = .blob then
    cell (.blob ((Text.bytesOfHex? ((t.spelling.drop 2).dropLast)).getD []))
  else apply (.call t) []

end Expression

/-- The collations by their names. -/
def collations : List (String × Collation) :=
  [("binary", .binary), ("nocase", .noCase), ("rtrim", .rightTrim)]

/-- The collation of this name. -/
def collationOf? (name : String) : Option Collation :=
  (collations.find? fun entry => Text.sameIgnoringCase entry.1 name).map (·.2)

end DottedQuery.Store
