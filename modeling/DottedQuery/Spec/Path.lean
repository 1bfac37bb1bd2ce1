/-
# DottedQuery.Spec.Path -- dotted field paths

A path such as `album.performer.title` is a chain of relationship names and a field name.
Its segments are ASCII identifiers, which is part of the type: a path is determined by its
dotted text, and reading that text gives the path back.
-/

namespace DottedQuery

/-- The first character of an identifier: a letter or an underscore. -/
def startsIdentifier (c : Char) : Bool := c.isAlpha || c = '_'

/-- A later character of an identifier: a letter, a digit or an underscore. -/
def continuesIdentifier (c : Char) : Bool := c.isAlphanum || c = '_'

/-- Whether the characters are an ASCII identifier. -/
def identifierChars : List Char → Bool
  | [] => false
  | c :: rest => startsIdentifier c && rest.all continuesIdentifier

/-- Whether the text is an ASCII identifier. -/
def isIdentifier (s : String) : Bool := identifierChars s.toList

/-- A chain of relationship names followed by a field name. -/
structure FieldPath where
  relationships : List String
  field : String
  identifiers : ∀ s ∈ relationships ++ [field], isIdentifier s = true
  deriving DecidableEq

/-- A text that is no path, with its first segment that is no identifier. -/
structure InvalidPath where
  path : String
  segment : String
  deriving DecidableEq, Repr

/-- What is wrong with the text. -/
def InvalidPath.message (e : InvalidPath) : String :=
  "Invalid field path '" ++ e.path ++ "': segment '" ++ e.segment ++ "' is not an identifier"

namespace FieldPath

/-- The parts of a text between its dots. A text without dots is one segment. -/
def segments (s : String) : List String := (s.toList.splitOn '.').map String.ofList

/-- The path with these segments, if there is one and all are identifiers. -/
def ofSegments? (parts : List String) : Option FieldPath :=
  match hp : parts.getLast? with
  | none => none
  | some field =>
    if h : ∀ s ∈ parts, isIdentifier s = true then
      some
        { relationships := parts.dropLast
          field
          identifiers := by
            intro s hs
            apply h
            have nonempty : parts ≠ [] := by rintro rfl; simp at hp
            rw [List.getLast?_eq_some_getLast nonempty, Option.some.injEq] at hp
            rw [← hp, List.dropLast_concat_getLast] at hs
            exact hs }
    else none

/-- Reads a dotted path. Every segment must be an identifier. -/
def parse (s : String) : Except InvalidPath FieldPath :=
  match ofSegments? (segments s) with
  | some path => .ok path
  | none => .error ⟨s, ((segments s).find? fun part => !isIdentifier part).getD ""⟩

/-- How many relationships the path crosses. -/
def depth (p : FieldPath) : Nat := p.relationships.length

/-- The dotted text of the path, under which its value appears in a result. -/
def key (p : FieldPath) : String := String.intercalate "." (p.relationships ++ [p.field])

instance : ToString FieldPath := ⟨key⟩

instance : Repr FieldPath := ⟨fun p _ => repr p.key⟩

end FieldPath

end DottedQuery
