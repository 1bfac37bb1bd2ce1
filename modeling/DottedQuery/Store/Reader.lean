/-
# DottedQuery.Store.Reader -- reading the tokens of a statement

A reader takes tokens off the front of a statement and returns what they mean, or the fault
at the first token that does not fit. The message of a fault names the token; where the
statement simply ends, it says so. What fits may still be refused for what it means. Such a
refusal is told when the next token is taken: if that does not fit, its fault is told
instead. Words that have a meaning of their own in the grammar cannot be names unless they
are quoted; most other words can, although the grammar knows them.
-/
import DottedQuery.Store.Token

namespace DottedQuery.Store

/-- Why a statement is refused, and where in it, if the fault has a place. -/
structure Fault where
  message : String
  offset : Option Nat := none
  deriving DecidableEq, Repr

/-- A statement that is being read: the tokens ahead, and why what has been read is refused,
if it is. -/
structure Reading where
  ahead : List Token
  refusal : Option Fault := none
  deriving DecidableEq, Repr

/-- Takes tokens off the front of a statement. -/
abbrev Reader := StateT Reading (Except Fault)

namespace Reader

/-! ## Single tokens -/

/-- The tokens ahead. -/
def ahead : Reader (List Token) := return (← get).ahead

/-- The fault that the tokens ahead do not fit. -/
def faultAt : List Token → Fault
  | [] => ⟨"incomplete input", none⟩
  | t :: _ =>
    let spelled := "\"" ++ String.ofList t.spelling ++ "\""
    if t.kind = .illegal then ⟨"unrecognized token: " ++ spelled, some t.offset⟩
    else ⟨"near " ++ spelled ++ ": syntax error", some t.offset⟩

/-- Gives up at the next token. -/
def stuck {α : Type} : Reader α := do throw (faultAt (← ahead))

/-- Refuses what has been read. -/
def refuse (fault : Fault) : Reader Unit := modify ({ · with refusal := some fault })

/-- Refuses what has been read if an operation on it does, and goes on with what there was
before. -/
def settle {α : Type} (before : α) : Except Fault α → Reader α
  | .ok after => return after
  | .error fault => do
    refuse fault
    return before

/-- Tells why what has been read is refused, if it is. -/
def confirm : Reader Unit := do
  if let some fault := (← get).refusal then throw fault

/-- Whether the next token satisfies the test. -/
def sees (p : Token → Bool) : Reader Bool := return (← ahead).head?.any p

/-- Takes the next token, which has to satisfy the test. -/
def take (p : Token → Bool) : Reader Token := do
  match ← ahead with
  | t :: rest =>
    if p t then
      confirm
      set ({ ahead := rest } : Reading)
      return t
    else stuck
  | [] => stuck

/-- Takes the next token if it satisfies the test, and tells whether it did. -/
def takeIf (p : Token → Bool) : Reader Bool := do
  if ← sees p then do let _ ← take p; return true else return false

/-- Takes tokens as long as they satisfy the test, at most so many. -/
def takeUpTo (p : Token → Bool) : Nat → Reader (List Token)
  | 0 => return []
  | limit + 1 => do
    if ← sees p then return (← take p) :: (← takeUpTo p limit) else return []

/-- Takes tokens as long as they satisfy the test. -/
def takeWhile (p : Token → Bool) : Reader (List Token) := do takeUpTo p (← ahead).length

/-- Takes this word. -/
def word (w : String) : Reader Unit := do let _ ← take (·.isWord w)

/-- Takes this word if it is next, and tells whether it was. -/
def wordIf (w : String) : Reader Bool := takeIf (·.isWord w)

/-- Takes this sign. -/
def sign (s : String) : Reader Unit := do let _ ← take (·.isSign s)

/-- Takes this sign if it is next, and tells whether it was. -/
def signIf (s : String) : Reader Bool := takeIf (·.isSign s)

/-! ## Names -/

/-- Words that cannot be names. -/
def reservedWords : List String :=
  ["add", "all", "alter", "and", "as", "autoincrement", "between", "case", "check", "collate",
   "commit", "constraint", "create", "default", "deferrable", "delete", "distinct", "drop",
   "else", "escape", "except", "exists", "foreign", "from", "group", "having", "in", "index",
   "insert", "intersect", "into", "is", "isnull", "join", "limit", "not", "nothing", "notnull",
   "null", "on", "or", "order", "primary", "references", "returning", "select", "set", "table",
   "then", "to", "transaction", "union", "unique", "update", "using", "values", "when", "where"]

/-- Words that can be names of things but not of types and collations. -/
def thingWords : List String :=
  ["cross", "full", "indexed", "inner", "left", "natural", "outer", "right"]

/-- A word that can be a name. -/
def isNameWord (t : Token) : Bool := t.kind = .word && !reservedWords.any t.isWord

/-- A word that can stand for itself without quotes, or a name in them. -/
def isPlainName (t : Token) : Bool :=
  t.kind = .name || (isNameWord t && !thingWords.any t.isWord)

/-- A name of a table, a column or a constraint. -/
def isName (t : Token) : Bool := t.kind = .name || t.kind = .text || isNameWord t

/-- A name of a type or a collation. -/
def isTypeName (t : Token) : Bool := t.kind = .text || isPlainName t

/-- Takes a name. -/
def name : Reader String := do return (← take isName).name

/-! ## Types -/

/-- Takes a number with or without a sign. -/
def signedNumber : Reader (List Token) := do
  let signs ←
    if ← sees (fun t => t.isSign "+" || t.isSign "-") then do pure [← take fun _ => true]
    else pure []
  return signs ++ [← take (·.kind = .number)]

/-- Takes a type: names, and perhaps one or two numbers in brackets. -/
def typeTokens : Reader (List Token) := do
  let names ← takeWhile isTypeName
  if names.isEmpty then return []
  else if ← sees (·.isSign "(") then do
    let opening ← take fun _ => true
    let first ← signedNumber
    let second ←
      if ← sees (·.isSign ",") then do pure ((← take fun _ => true) :: (← signedNumber))
      else pure []
    return names ++ opening :: (first ++ second ++ [← take (·.isSign ")")])
  else return names

/-! ## Lists and brackets -/

/-- What follows the bracket that closes a query. Nothing is asked of a query but that its
brackets match. -/
def afterBracket (depth : Nat) : List Token → Except Fault (List Token)
  | [] => .error (faultAt [])
  | t :: rest =>
    if t.kind = .illegal || t.isSign ";" then .error (faultAt (t :: rest))
    else if t.isSign "(" then afterBracket (depth + 1) rest
    else if t.isSign ")" then
      match depth with
      | 0 => .ok rest
      | depth + 1 => afterBracket depth rest
    else afterBracket depth rest

/-- Takes what `item` reads, once and again after each comma, at most so many times. -/
def separated {α : Type} (item : Reader α) : Nat → Reader (List α)
  | 0 => stuck
  | limit + 1 => do
    let first ← item
    if ← signIf "," then return first :: (← separated item limit)
    else return [first]

/-- Takes a list in brackets, of as many items as there are tokens at most. -/
def bracketedList {α : Type} (item : Reader α) : Reader (List α) := do
  sign "("
  let items ← separated item (← ahead).length
  sign ")"
  return items

end Reader

end DottedQuery.Store
