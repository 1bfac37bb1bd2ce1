/-
# DottedQuery.Store.FunctionNames -- the functions that calls name

A call names a function and gives it operands, of which the function takes a certain number.
Some functions are of many rows, and some of them of rows around a row; in a definition there
is only the row itself. Others give different values for the same operands.
-/
import DottedQuery.Store.Expression
import DottedQuery.Store.Reader

namespace DottedQuery.Store

/-! ## Functions -/

/-- The name of a function with the least and the greatest number of operands. -/
abbrev Arity := String × Nat × Nat

/-- How many operands a function may have. -/
def operandLimit : Nat := 127

/-- Functions that are worked out. -/
def workedFunctions : List Arity :=
  [("abs", 1, 1), ("char", 0, operandLimit), ("coalesce", 2, operandLimit),
   ("concat", 1, operandLimit), ("concat_ws", 2, operandLimit), ("format", 0, operandLimit),
   ("glob", 2, 2), ("hex", 1, 1), ("ifnull", 2, 2), ("iif", 3, 3), ("instr", 2, 2),
   ("length", 1, 1), ("like", 2, 3), ("likelihood", 2, 2), ("likely", 1, 1), ("lower", 1, 1),
   ("ltrim", 1, 2), ("max", 2, operandLimit), ("min", 2, operandLimit), ("nullif", 2, 2),
   ("octet_length", 1, 1), ("printf", 0, operandLimit), ("quote", 1, 1), ("replace", 3, 3),
   ("round", 1, 2), ("rtrim", 1, 2), ("sign", 1, 1), ("soundex", 1, 1), ("substr", 2, 3),
   ("substring", 2, 3), ("subtype", 1, 1), ("trim", 1, 2), ("typeof", 1, 1), ("unhex", 1, 2), ("unicode", 1, 1),
   ("unlikely", 1, 1), ("upper", 1, 1), ("zeroblob", 1, 1),
   ("date", 0, operandLimit), ("datetime", 0, operandLimit), ("julianday", 0, operandLimit),
   ("strftime", 0, operandLimit), ("time", 0, operandLimit), ("timediff", 2, 2),
   ("unixepoch", 0, operandLimit),
   ("->", 2, 2), ("->>", 2, 2), ("json", 1, 1), ("json_array", 0, operandLimit),
   ("json_array_length", 1, 2), ("json_error_position", 1, 1), ("json_extract", 0, operandLimit),
   ("json_insert", 0, operandLimit), ("json_object", 0, operandLimit), ("json_patch", 2, 2),
   ("json_pretty", 1, 2), ("json_quote", 1, 1), ("json_remove", 0, operandLimit),
   ("json_replace", 0, operandLimit), ("json_set", 0, operandLimit), ("json_type", 1, 2),
   ("json_valid", 1, 2), ("jsonb", 1, 1), ("jsonb_array", 0, operandLimit),
   ("jsonb_extract", 0, operandLimit), ("jsonb_insert", 0, operandLimit),
   ("jsonb_object", 0, operandLimit), ("jsonb_patch", 2, 2), ("jsonb_remove", 0, operandLimit),
   ("jsonb_replace", 0, operandLimit), ("jsonb_set", 0, operandLimit)]

/-- Functions that give the same value for the same operands, but are not worked out. -/
def otherFunctions : List Arity := [("fts5_source_id", 0, 0), ("sqlite_log", 2, 2)]

/-- Functions whose values depend on more than their operands. -/
def unsteadyFunctions : List Arity :=
  [("bm25", 0, operandLimit), ("changes", 0, 0), ("current_date", 0, 0), ("current_time", 0, 0),
   ("current_timestamp", 0, 0), ("fts3_tokenizer", 1, 2), ("fts5", 1, 1),
   ("highlight", 0, operandLimit), ("last_insert_rowid", 0, 0), ("load_extension", 1, 2),
   ("match", 2, 2), ("matchinfo", 1, 2), ("offsets", 1, 1), ("optimize", 1, 1), ("random", 0, 0),
   ("randomblob", 1, 1), ("rtreecheck", 0, operandLimit), ("rtreedepth", 1, 1),
   ("rtreenode", 2, 2), ("snippet", 0, operandLimit), ("sqlite_compileoption_get", 1, 1),
   ("sqlite_compileoption_used", 1, 1), ("sqlite_source_id", 0, 0), ("sqlite_version", 0, 0),
   ("total_changes", 0, 0)]

/-- Functions of many rows. -/
def aggregateFunctions : List Arity :=
  [("avg", 1, 1), ("count", 0, 1), ("group_concat", 1, 2), ("json_group_array", 1, 1),
   ("json_group_object", 2, 2), ("jsonb_group_array", 1, 1), ("jsonb_group_object", 2, 2),
   ("max", 1, 1), ("min", 1, 1), ("string_agg", 2, 2), ("sum", 1, 1), ("total", 1, 1)]

/-- Functions of rows around a row. -/
def windowFunctions : List Arity :=
  [("cume_dist", 0, 0), ("dense_rank", 0, 0), ("first_value", 1, 1), ("lag", 1, 3),
   ("last_value", 1, 1), ("lead", 1, 3), ("nth_value", 2, 2), ("ntile", 1, 1),
   ("percent_rank", 0, 0), ("rank", 0, 0), ("row_number", 0, 0)]

/-- Functions of one row. -/
def rowFunctions : List Arity := workedFunctions ++ otherFunctions ++ unsteadyFunctions

/-- Whether a list has a function of this name that takes so many operands. -/
def admits (functions : List Arity) (name : String) (count : Nat) : Bool :=
  functions.any fun (known, least, most) =>
    Text.sameIgnoringCase known name && least ≤ count && count ≤ most

/-- Whether a list has a function of this name. -/
def isKnown (functions : List Arity) (name : String) : Bool :=
  functions.any fun (known, _) => Text.sameIgnoringCase known name

/-! ## Faults of calls -/

/-- What is wrong with what a call of a function of one row says beside its operands. -/
def clauseFault? (name : String) : Option CallClause → Option String
  | none | some .distinct => none
  | some .ordered => some ("ORDER BY may not be used with non-aggregate " ++ name ++ "()")
  | some .filtered => some ("FILTER may not be used with non-aggregate " ++ name ++ "()")
  | some .windowed => some (name ++ "() may not be used as a window function")

/-- A literal that can be a probability. -/
def isProbability : Expression → Bool
  | .cell (.real x) => 0.0 ≤ x && x ≤ 1.0
  | _ => false

/-- What is wrong with the operands of a function of one row. -/
def operandFault? (name : String) (operands : List Expression) : Option String :=
  if Text.sameIgnoringCase name "likelihood" && !(operands.drop 1).all isProbability then
    some ("second argument to " ++ name ++ "() must be a constant between 0.0 and 1.0")
  else none

/-- What is wrong with a call where there is only one row, if anything is. -/
def callFault? (t : Token) (operands : List Expression) (clause : Option CallClause) :
    Option Fault :=
  let name := t.name
  let count := operands.length
  let message :=
    if admits rowFunctions name count then clauseFault? name clause <|> operandFault? name operands
    else if admits windowFunctions name count ||
        (clause = some .windowed && admits aggregateFunctions name count) then
      some ("misuse of window function " ++ name ++ "()")
    else if admits aggregateFunctions name count then
      some ("misuse of aggregate function " ++ name ++ "()")
    else if isKnown rowFunctions name && clause = some .windowed then clauseFault? name clause
    else if isKnown (rowFunctions ++ windowFunctions ++ aggregateFunctions) name then
      some ("wrong number of arguments to function " ++ name ++ "()")
    else some ("no such function: " ++ name)
  message.map (⟨·, some t.offset⟩)

end DottedQuery.Store
