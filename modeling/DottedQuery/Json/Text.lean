/-
# DottedQuery.Json.Text -- writing JSON

A JSON text is a tree whose leaves are finished numbers, words and strings. It is written
on one line, or with every item on a line of its own, indented by two blanks a level. In a
string only the quote, the backslash and the control characters below U+0020 are escaped.
-/
import DottedQuery.Value

namespace DottedQuery.Json

/-! ## Strings -/

/-- How one character is written in a string. -/
def escapeChar (c : Char) : List Char :=
  if c = '"' then ['\\', '"']
  else if c = '\\' then ['\\', '\\']
  else if c = '\x08' then ['\\', 'b']
  else if c = '\t' then ['\\', 't']
  else if c = '\n' then ['\\', 'n']
  else if c = '\x0c' then ['\\', 'f']
  else if c = '\r' then ['\\', 'r']
  else if c.toNat < 0x20 then ['\\', 'u', '0', '0'] ++ Text.hexByte (UInt8.ofNat c.toNat)
  else [c]

/-- A string between quotes. -/
def stringChars (s : List Char) : List Char := '"' :: (s.flatMap escapeChar ++ ['"'])

/-- A string between quotes. -/
def stringText (s : String) : String := String.ofList (stringChars s.toList)

/-! ## Trees -/

/-- A JSON text before it is laid out. -/
inductive Tree where
  | leaf (text : String)
  | array (items : List Tree)
  | object (members : List (String × Tree))
  deriving Inhabited

mutual

/-- The text on one line. -/
def Tree.compact : Tree → String
  | .leaf text => text
  | .array items => "[" ++ compactItems items ++ "]"
  | .object members => "\x7b" ++ compactMembers members ++ "\x7d"

/-- Items separated by commas. -/
def compactItems : List Tree → String
  | [] => ""
  | [item] => item.compact
  | item :: rest => item.compact ++ "," ++ compactItems rest

/-- Members separated by commas. -/
def compactMembers : List (String × Tree) → String
  | [] => ""
  | [(key, value)] => stringText key ++ ":" ++ value.compact
  | (key, value) :: rest => stringText key ++ ":" ++ value.compact ++ "," ++ compactMembers rest

end

/-- A line end and the blanks of a level. -/
def lineAt (level : Nat) : String := String.ofList ('\n' :: List.replicate (2 * level) ' ')

mutual

/-- The text with each item on its own line, inside `level` enclosing levels. -/
def Tree.pretty (level : Nat) : Tree → String
  | .leaf text => text
  | .array [] => "[]"
  | .array items => "[" ++ prettyItems (level + 1) items ++ lineAt level ++ "]"
  | .object [] => "\x7b\x7d"
  | .object members => "\x7b" ++ prettyMembers (level + 1) members ++ lineAt level ++ "\x7d"

/-- Items on lines of their own. -/
def prettyItems (level : Nat) : List Tree → String
  | [] => ""
  | [item] => lineAt level ++ item.pretty level
  | item :: rest => lineAt level ++ item.pretty level ++ "," ++ prettyItems level rest

/-- Members on lines of their own. -/
def prettyMembers (level : Nat) : List (String × Tree) → String
  | [] => ""
  | [(key, value)] => lineAt level ++ stringText key ++ ": " ++ value.pretty level
  | (key, value) :: rest =>
    lineAt level ++ stringText key ++ ": " ++ value.pretty level ++ "," ++
      prettyMembers level rest

end

/-! ## Scalars -/

/-- A scalar as JSON: bytes are an array of numbers, and a float that is not finite is
null. -/
def ofValue : Value → Tree
  | .null => .leaf "null"
  | .bool b => .leaf (Value.boolText b)
  | .int n => .leaf (Value.intText n)
  | .float x => .leaf (Decimal.json.render x)
  | .text s => .leaf (stringText s)
  | .bytes bs => .array (bs.map fun b => .leaf (toString b.toNat))

end DottedQuery.Json
