/-
# DottedQuery.Naming.Sentence -- column names as sentences

`track_number` reads as `Track number`. A word begins after anything that is neither letter
nor number, after a number, and where a lower case letter is followed by an upper case one.
The first word gets a capital, all other letters become small; only ASCII letters change.
-/
import DottedQuery.Text.Alphanumeric
import DottedQuery.Text.Blank
import DottedQuery.Text.LetterCase

namespace DottedQuery.Naming

/-- Writes the letters of a name as words. `fresh` says that the next letter begins a word,
`initial` that no word has begun yet, and `last` is the last letter inside a word. -/
def sentenceChars (fresh initial : Bool) (last : Char) : List Char → List Char
  | [] => []
  | c :: rest =>
    if !Text.isAlphanumeric c then sentenceChars true initial last rest
    else if Text.isNumeric c then c :: sentenceChars true initial last rest
    else if fresh || (Text.isLowercase last && Text.isUppercase c && last != ' ') then
      if initial then c.toUpper :: sentenceChars false false last rest
      else ' ' :: c.toLower :: sentenceChars false false last rest
    else c.toLower :: sentenceChars fresh initial c rest

/-- The name as a sentence. -/
def sentence (name : String) : String :=
  String.ofList
    (sentenceChars true true ' ' (Text.trimEnds (!Text.isAlphanumeric ·) name.toList))

/-- The part of a text before a suffix, if the text ends in it. -/
def stem? (suffix s : String) : Option String :=
  let chars := s.toList
  if suffix.toList.isSuffixOf chars then
    some (String.ofList (chars.take (chars.length - suffix.length)))
  else none

/-- The label of a field: its name as a sentence, without a trailing `_id` if that is asked
for and something remains. -/
def humanize (name : String) (stripIdSuffix : Bool) : String :=
  match stem? "_id" name with
  | some stem => sentence (if stripIdSuffix && !stem.isEmpty then stem else name)
  | none => sentence name

end DottedQuery.Naming
