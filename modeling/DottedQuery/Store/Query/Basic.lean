/-
# DottedQuery.Store.Query.Basic -- the queries that views stand for

A query takes the rows of one or more sources together, keeps those for which a condition holds,
may put them into groups, and gives values for each row or group. The rows can then be put in
order and be limited.
-/
import DottedQuery.Store.ExpressionReading

namespace DottedQuery.Store

/-- A table or a view in a query. -/
structure QuerySource where
  table : String
  /-- The name that the source goes by in the query. -/
  name : String
  /-- Whether rows before it are kept where nothing fits. -/
  isOptional : Bool := false
  condition : Option Expression := none

/-- What a query gives. -/
inductive Choice where
  /-- All columns of a source, or of all sources if none is named. -/
  | all (source : Option String)
  /-- A value, the name it is given, and its text in the query. -/
  | value (e : Expression) (name : Option String) (text : String)

/-- By what rows are put in order. -/
structure SortTerm where
  expression : Expression
  falling : Bool := false
  /-- Whether nulls come first, if that is said. -/
  nullsFirst : Option Bool := none

/-- A query. -/
structure Query where
  /-- Whether equal rows are given once. -/
  distinct : Bool := false
  choices : List Choice
  sources : List QuerySource
  condition : Option Expression := none
  groups : List Expression := []
  groupCondition : Option Expression := none
  order : List SortTerm := []
  limit : Option Expression := none
  skipped : Option Expression := none

/-- All that there is in a table or a view. -/
def Query.ofTable (table : String) : Query where
  choices := [.all none]
  sources := [{ table, name := table }]

namespace Reader

/-! ## What a query gives -/

/-- Takes an expression; gives its text with it. -/
def expressionWithText : Reader (Expression × String) := do
  let before ← ahead
  let e ← expression
  let after ← ahead
  let taken := before.take (before.length - after.length)
  let text := Token.stretch taken ++ (after.take 1).flatMap (·.gap)
  return (e, String.ofList (Text.trimEnds Cell.isNumberBlank text))

/-- Takes the name that something is given, if it is given one. -/
def givenName : Reader (Option String) := do
  if ← wordIf "as" then return some (← name)
  else if ← sees isTypeName then return some (← take isTypeName).name
  else return none

/-- Takes what a query gives. -/
def queryChoice : Reader Choice := do
  if ← signIf "*" then return .all none
  else
    match ← ahead with
    | source :: dot :: star :: rest =>
      if isName source && dot.isSign "." && star.isSign "*" then
        set ({ ahead := rest } : Reading)
        return .all (some source.name)
      else do
        let (e, text) ← expressionWithText
        return .value e (← givenName) text
    | _ => do
      let (e, text) ← expressionWithText
      return .value e (← givenName) text

/-! ## Sources -/

/-- Takes a table or a view with its name. -/
def querySource (isOptional : Bool) : Reader QuerySource := do
  let first ← name
  let table ← if ← signIf "." then name else pure first
  let given ← givenName
  let condition ← if ← wordIf "on" then do pure (some (← expression)) else pure none
  return { table, name := given.getD table, isOptional, condition }

/-- Takes what stands before a further source; tells whether that is optional. -/
def joinWords : Reader (Option Bool) := do
  if ← signIf "," then return some false
  else if ← wordIf "join" then return some false
  else if ← wordIf "left" then do
    let _ ← wordIf "outer"
    word "join"
    return some true
  else if ← sees (fun t => t.isWord "inner" || t.isWord "cross") then do
    let _ ← take fun _ => true
    word "join"
    return some false
  else return none

/-- Takes further sources, at most so many. -/
def moreSources : Nat → Reader (List QuerySource)
  | 0 => return []
  | limit + 1 => do
    match ← joinWords with
    | some isOptional => return (← querySource isOptional) :: (← moreSources limit)
    | none => return []

/-! ## Whole queries -/

/-- Takes an expression after a word, if that word is next. -/
def expressionAfter (w : String) : Reader (Option Expression) := do
  if ← wordIf w then return some (← expression) else return none

/-- Takes a list after two words, if the first of them is next. -/
def listBy {α : Type} (w : String) (item : Reader α) : Reader (List α) := do
  if ← wordIf w then do
    word "by"
    separated item (← ahead).length
  else return []

/-- Takes a term by which rows are put in order. -/
def sortTerm : Reader SortTerm := do
  let e ← expression
  let (falling, nullsFirst) ← orderWords
  return ⟨e, falling, nullsFirst⟩

/-- Takes how many rows are given, and how many are skipped. -/
def bounds : Reader (Option Expression × Option Expression) := do
  match ← expressionAfter "limit" with
  | none => return (none, none)
  | some first =>
    if ← signIf "," then return (some (← expression), some first)
    else return (some first, ← expressionAfter "offset")

/-- Takes a query. -/
def wholeQuery : Reader Query := do
  word "select"
  let distinct ← wordIf "distinct"
  if !distinct then do let _ ← wordIf "all"
  let choices ← separated queryChoice (← ahead).length
  let sources ←
    if ← wordIf "from" then do
      let first ← querySource false
      pure (first :: (← moreSources (← ahead).length))
    else pure []
  let condition ← expressionAfter "where"
  let groups ← listBy "group" expression
  let groupCondition ← expressionAfter "having"
  let order ← listBy "order" sortTerm
  let (limit, skipped) ← bounds
  return { distinct, choices, sources, condition, groups, groupCondition, order, limit, skipped }

end Reader

end DottedQuery.Store
