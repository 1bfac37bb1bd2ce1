/-
# DottedQuery.Text.Quoted -- text between double quotes, every hidden character spelled

A quoted text is one line without controls, whatever the text holds. The quote and the
backslash are escaped by a backslash; tab, line feed, carriage return and NUL have letters
of their own; any other hidden character is its number in braces.
-/
import DottedQuery.Text.Hex
import DottedQuery.Text.Visible

namespace DottedQuery.Text

/-- How one character is written between the quotes. -/
def escapeChar (c : Char) : List Char :=
  if c = '"' then ['\\', '"']
  else if c = '\\' then ['\\', '\\']
  else if c = '\n' then ['\\', 'n']
  else if c = '\t' then ['\\', 't']
  else if c = '\r' then ['\\', 'r']
  else if c = '\x00' then ['\\', '0']
  else if isHidden c then ['\\', 'u', '\x7b'] ++ hexText c.toNat ++ ['\x7d']
  else [c]

/-- The characters of a quoted text. -/
def quotedChars (s : List Char) : List Char := '"' :: (s.flatMap escapeChar ++ ['"'])

/-- The text in double quotes. -/
def quoted (s : String) : String := String.ofList (quotedChars s.toList)

end DottedQuery.Text
