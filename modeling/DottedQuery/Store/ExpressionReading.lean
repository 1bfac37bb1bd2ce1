/-
# DottedQuery.Store.ExpressionReading -- reading expressions

Signs and words between two expressions bind them with a strength from 1 to 12: an operation
takes on its right what is bound more strongly than by itself, and what binds equally goes to
the left. What follows the operands of a call is read with it.
-/
import DottedQuery.Store.FunctionNames
import DottedQuery.Text.Blank

namespace DottedQuery.Store

/-! ## Signs and words between expressions -/

/-- The signs that look a part of a document up, and how strongly they bind. -/
def arrowSigns : List String := ["->>", "->"]

/-- How strongly such a sign binds. -/
def arrowStrength : Nat := 10

namespace Expression

/-- The signs between two expressions, how strongly they bind, and what they make. -/
def binarySigns : List (String × Nat × (Expression → Expression → Expression)) :=
  [("||", 10, both .join),
   ("*", 9, both .multiply), ("/", 9, both .divide), ("%", 9, both .remainder),
   ("+", 8, both .add), ("-", 8, both .subtract),
   ("&", 7, both .bitAnd), ("|", 7, both .bitOr),
   ("<<", 7, both .shiftLeft), (">>", 7, both .shiftRight),
   ("<", 5, both (.compare .less)), (">", 5, both (.compare .greater)),
   ("<=", 5, fun a b => not (both (.compare .greater) a b)),
   (">=", 5, fun a b => not (both (.compare .less) a b)),
   ("=", 4, both (.compare .equal)), ("==", 4, both (.compare .equal)),
   ("!=", 4, both (.compare .different)), ("<>", 4, both (.compare .different))]

end Expression

/-- The words that tell how a text matches a pattern. -/
def patternWords : List String := ["like", "glob", "regexp", "match"]

/-- The words that relate an expression to others, and can be denied. -/
def relationWords : List String := patternWords ++ ["between", "in"]

/-- The words that can follow an expression, and how strongly they bind. -/
def followingWords : List (String × Nat) :=
  [("or", 1), ("and", 2), ("not", 3), ("is", 4), ("isnull", 4), ("notnull", 4),
   ("collate", 11)] ++ relationWords.map (·, 4)

/-- How strongly a sign binds that stands before an expression. -/
def leadingStrength : Nat := 12

/-- How strongly the word for a denial binds. -/
def denialStrength : Nat := 3

/-- How strongly relations between expressions bind. -/
def relationStrength : Nat := 4

namespace Reader

/-! ## Parts of expressions -/

/-- Takes any token. -/
def anything : Reader Token := take fun _ => true

/-- A name that can stand without quotes in an expression, or one in double quotes. -/
def isPlaceName (t : Token) : Bool := t.kind = .name || isNameWord t

/-- A word that begins a query. -/
def startsQuery (t : Token) : Bool := ["select", "values", "with"].any t.isWord

/-- A token that is a value. -/
def isTerm (t : Token) : Bool :=
  [.number, .text, .blob].contains t.kind || t.isWord "null" ||
    ["current_date", "current_time", "current_timestamp"].any t.isWord

/-- A query on other tables, and its place. -/
def barredQuery (offset : Option Nat) : Expression := .barred "subqueries" offset

/-- Passes over a query up to the closing bracket and with it. -/
def query (offset : Option Nat) : Reader Expression := do
  let rest ← afterBracket 0 (← ahead)
  set ({ ahead := rest } : Reading)
  return barredQuery offset

section
variable (sub : Nat → Reader Expression)

/-- Takes what follows an opening bracket: an expression, or several that form a row. -/
def inBrackets : Reader Expression := do
  if ← sees startsQuery then query none
  else do
    let items ← separated (sub 1) (← ahead).length
    sign ")"
    match items with
    | [e] => return e
    | items => return .apply .row items

/-- Takes expressions, if there are any, up to the closing bracket and with it. -/
def upToBracket : Reader (List Expression) := do
  if ← signIf ")" then return []
  else do
    let items ← separated (sub 1) (← ahead).length
    sign ")"
    return items

/-! ## Calls -/

/-- Takes what is said of the direction of an order: whether it is falling, and whether nulls
come first. -/
def orderWords : Reader (Bool × Option Bool) := do
  let falling ← wordIf "desc"
  if !falling then do let _ ← wordIf "asc"
  if ← wordIf "nulls" then do
    let t ← take fun t => t.isWord "first" || t.isWord "last"
    return (falling, some (t.isWord "first"))
  else return (falling, none)

/-- Takes operands, perhaps with an order of rows; tells whether there is one. -/
def operandsInOrder : Reader (List Expression × Bool) := do
  let items ←
    if ← sees fun t => t.isSign ")" || t.isWord "order" then pure []
    else separated (sub 1) (← ahead).length
  if ← wordIf "order" then do
    word "by"
    let _ ← separated (do let _ ← sub 1; orderWords) (← ahead).length
    return (items, !items.isEmpty)
  else return (items, false)

/-- Takes the condition on rows after a call, if there is one; tells whether there is. -/
def rowFilter : Reader Bool := do
  match ← ahead with
  | t :: next :: _ =>
    if t.isWord "filter" && next.isSign "(" then do
      word "filter"
      sign "("
      word "where"
      let _ ← sub 1
      sign ")"
      return true
    else return false
  | _ => return false

/-- Passes over what rows around a row are after a call, if that is said; tells whether it
is. -/
def rowWindow : Reader Bool := do
  match ← ahead with
  | t :: next :: _ =>
    if t.isWord "over" && next.isSign "(" then do
      word "over"
      sign "("
      let rest ← afterBracket 0 (← ahead)
      set ({ ahead := rest } : Reading)
      return true
    else if t.isWord "over" && isName next then do
      word "over"
      let _ ← name
      return true
    else return false
  | _ => return false

/-- Takes a call of a function after the opening bracket. -/
def call (t : Token) : Reader Expression := do
  let star ← signIf "*"
  let distinct ← if star then pure false else wordIf "distinct"
  if !star && !distinct then do let _ ← wordIf "all"
  let (operands, ordered) ← if star then pure ([], false) else operandsInOrder sub
  sign ")"
  if operandLimit < operands.length then
    refuse ⟨"too many arguments on function " ++ String.ofList t.spelling, some t.offset⟩
  let filtered ← rowFilter sub
  let windowed ← rowWindow
  if distinct && windowed then refuse ⟨"DISTINCT is not supported for window functions", none⟩
  if ordered && windowed then
    refuse ⟨"ORDER BY may not be used with non-aggregate " ++ t.name ++ "()", some t.offset⟩
  let clause : Option CallClause :=
    if windowed then some .windowed
    else if filtered then some .filtered
    else if ordered then some .ordered
    else if distinct && admits aggregateFunctions t.name operands.length then some .distinct
    else none
  match clause with
  | some clause => return .apply (.callWith t clause) operands
  | none => return .apply (.call t) operands

/-- Takes what raises a fault, after the word that does. -/
def raised : Reader Expression := do
  sign "("
  if !(← wordIf "ignore") then do
    let _ ← take fun t => ["rollback", "abort", "fail"].any t.isWord
    sign ","
    let _ ← name
  sign ")"
  return .flawed "RAISE() may only be used within a trigger-program"

/-! ## Choices and conversions -/

/-- Takes conditions with their values, at most so many. -/
def cases : Nat → Reader (List Expression)
  | 0 => return []
  | limit + 1 => do
    if ← wordIf "when" then do
      let condition ← sub 1
      word "then"
      let value ← sub 1
      return condition :: value :: (← cases limit)
    else return []

/-- Takes a choice after the word that begins it. -/
def choice : Reader Expression := do
  let first ← if ← sees (·.isWord "when") then pure [] else do pure [← sub 1]
  if !(← sees (·.isWord "when")) then stuck
  else do
    let entries ← cases sub (← ahead).length
    let last ← if ← wordIf "else" then do pure [← sub 1] else pure []
    word "end"
    return .apply (.choose !first.isEmpty) (first ++ entries ++ last)

/-- Takes the value and the type of a conversion. -/
def conversion : Reader Expression := do
  sign "("
  let e ← sub 1
  word "as"
  let type ← typeTokens
  sign ")"
  let affinity : Affinity :=
    if type.isEmpty then .numeric else .ofDeclared (String.ofList (Token.stretch type))
  return .apply (.cast affinity) [e]

/-- Takes a name: of a column, perhaps with the names of its table and its database before
it, or of a function with its operands after it. -/
def placeOrCall : Reader Expression := do
  let first ← anything
  if ← sees (·.isSign ".") then do
    sign "."
    let second ← take isName
    if ← signIf "." then return .name [first, second] (← take isName)
    else return .name [first] second
  else if first.kind = .text then return .ofToken first
  else if ← signIf "(" then call sub first
  else return .name [] first

/-! ## Single expressions -/

/-- Takes an expression that no sign and no word binds to others. -/
def single : Reader Expression := do
  if ← signIf "(" then inBrackets sub
  else if ← signIf "-" then do
    if ← sees (·.kind = .number) then return .ofNumber true (← anything)
    else return .apply .negate [← sub leadingStrength]
  else if ← signIf "+" then return .apply .keep [← sub leadingStrength]
  else if ← signIf "~" then return .apply .invert [← sub leadingStrength]
  else if ← wordIf "not" then return .not (← sub denialStrength)
  else if ← wordIf "case" then choice sub
  else if ← wordIf "cast" then conversion sub
  else if ← wordIf "raise" then raised
  else if ← wordIf "exists" then do
    sign "("
    query none
  else if ← sees (·.kind = .parameter) then return .barred "parameters" (some (← anything).offset)
  else if ← sees fun t => isTerm t && t.kind ≠ .text then return .ofToken (← anything)
  else if ← sees fun t => t.kind = .text || isPlaceName t then placeOrCall sub
  else stuck

/-! ## What follows an expression -/

/-- Refuses rows among which another row of so many values is looked for, if they are not of
as many. -/
def refuseRows (width : Nat) (items : List Expression) : Reader Unit := do
  let count (e : Expression) : Nat :=
    match e with
    | .apply .row items => items.length
    | _ => 1
  if let some n := (items.map count).find? (· ≠ width) then
    let terms := toString n ++ if n = 1 then " term" else " terms"
    refuse ⟨"IN(...) element has " ++ terms ++ " - expected " ++ toString width, none⟩

/-- Takes what an expression is looked for in. -/
def membership (e : Expression) : Reader Expression := do
  if ← signIf "(" then
    let isQuery := ((← ahead).find? (!·.isSign "(")).any startsQuery
    if ← sees startsQuery then query e.offset?
    else do
      let items ← upToBracket sub
      match e, items with
      | _, [] => return .truth false
      | e, [.barred _ none] =>
        if isQuery then return barredQuery e.offset?
        else return .apply .among (e :: items)
      | .apply .row values, items => do
        refuseRows values.length items
        return barredQuery e.offset?
      | e, items => return .apply .among (e :: items)
  else do
    let _ ← take isName
    if ← signIf "." then do let _ ← take isName
    if ← signIf "(" then do let _ ← upToBracket sub
    return barredQuery e.offset?

/-- Takes what an expression is related to, after the word of the relation. -/
def relation (e : Expression) (t : Token) : Reader Expression := do
  if t.isWord "in" then membership sub e
  else if t.isWord "between" then do
    let low ← sub denialStrength
    if ← wordIf "or" then do let _ ← sub 1
    word "and"
    return .apply .between [e, low, ← sub (relationStrength + 1)]
  else do
    let pattern ← sub (relationStrength + 1)
    let escape ← if ← wordIf "escape" then do pure [← sub (relationStrength + 1)] else pure []
    return .apply (.call t) (pattern :: e :: escape)

/-- Takes what an expression is, or is not. -/
def identity (e : Expression) : Reader Expression := do
  let denied ← wordIf "not"
  let distinct ← wordIf "distinct"
  if distinct then word "from"
  return .both (if denied == distinct then .same else .differ) e (← sub (relationStrength + 1))

/-- Takes what follows an expression after a word that can. -/
def afterWord (e : Expression) (t : Token) : Reader Expression := do
  let notNull := Expression.both .differ e (.cell .null)
  if t.isWord "or" then return .both .or e (← sub 2)
  else if t.isWord "and" then return .conjunction e (← sub 3)
  else if t.isWord "collate" then do
    let collation := (collationOf? (← take isTypeName).name).getD .binary
    return .apply (.collate collation) [e]
  else if t.isWord "isnull" then return .both .same e (.cell .null)
  else if t.isWord "notnull" then return notNull
  else if t.isWord "is" then identity sub e
  else if t.isWord "not" then do
    if ← wordIf "null" then return notNull
    else return .not (← relation sub e (← take fun t => relationWords.any t.isWord))
  else relation sub e t

/-- Extends an expression by what follows, as far as it binds so strongly, at most so many
times. -/
def extended (level : Nat) : Nat → Expression → Reader Expression
  | 0, e => return e
  | limit + 1, e => do
    let next := (← ahead).head?
    if next.any fun t => arrowSigns.any t.isSign then
      if arrowStrength < level then return e
      else do
        let t ← anything
        extended level limit (.apply (.call t) [e, ← sub (arrowStrength + 1)])
    else
    match Expression.binarySigns.find? fun entry => next.any (·.isSign entry.1) with
    | some (_, strength, make) =>
      if strength < level then return e
      else do
        let _ ← anything
        extended level limit (make e (← sub (strength + 1)))
    | none =>
      match followingWords.find? fun entry => next.any (·.isWord entry.1) with
      | some (_, strength) =>
        if strength < level then return e
        else do
          let t ← anything
          extended level limit (← afterWord sub e t)
      | none => return e

end

/-! ## Whole expressions -/

/-- Takes an expression whose parts are bound so strongly at least, of a limited depth. -/
def boundExpression : Nat → Nat → Reader Expression
  | 0, _ => stuck
  | depth + 1, level => do
    let e ← single (boundExpression depth)
    extended (boundExpression depth) level (← ahead).length e

/-- How high an expression may be. -/
def heightLimit : Nat := 1000

/-- Takes an expression. -/
def expression : Reader Expression := do
  let e ← boundExpression ((← ahead).length + 1) 1
  if heightLimit < e.height then
    refuse ⟨"Expression tree is too large (maximum depth " ++ toString heightLimit ++ ")", none⟩
  return e

/-- Takes an expression in brackets; gives the text between the brackets with it. -/
def bracketed : Reader (Expression × List Char) := do
  sign "("
  let before ← ahead
  let e ← expression
  let after ← ahead
  sign ")"
  let taken := before.take (before.length - after.length)
  let text := taken.flatMap (fun t => t.gap ++ t.spelling) ++ (after.take 1).flatMap (·.gap)
  return (e, Text.trimEnds Cell.isNumberBlank text)

end Reader

end DottedQuery.Store
