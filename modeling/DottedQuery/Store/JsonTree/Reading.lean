/-
# DottedQuery.Store.JsonTree.Reading -- reading JSON documents

Beyond the standard a reader admits comments and more blanks, labels without quotes, texts in
single quotes, numbers in base sixteen or without digits on one side of the point, words for
infinities, and a comma before a closing bracket. It tells whether anything of that kind
occurs, and where a document is at fault.
-/
import DottedQuery.Store.JsonTree.Basic

namespace DottedQuery.Store

namespace JsonTree

/-! ## Blanks -/

/-- A blank of the standard. -/
def isBlank (c : Char) : Bool := [' ', '\t', '\n', '\r'].contains c

/-- What follows a comment after its opening, if it is closed. -/
def afterComment? : List Char → Option (List Char)
  | '*' :: '/' :: rest => some rest
  | _ :: rest => afterComment? rest
  | [] => none

/-- What follows the rest of a line. -/
def afterLine : List Char → List Char
  | '\n' :: rest => rest
  | '\r' :: rest => rest
  | '\xe2' :: '\x80' :: '\xa8' :: rest => rest
  | '\xe2' :: '\x80' :: '\xa9' :: rest => rest
  | _ :: rest => afterLine rest
  | [] => []

/-- What follows a blank of any alphabet. -/
def afterWideBlank? : List Char → Option (List Char)
  | '\xc2' :: '\xa0' :: rest => some rest
  | '\xe1' :: '\x9a' :: '\x80' :: rest => some rest
  | '\xe2' :: '\x80' :: c :: rest =>
    if ('\x80' ≤ c && c ≤ '\x8a') || c = '\xa8' || c = '\xa9' || c = '\xaf' then some rest else none
  | '\xe2' :: '\x81' :: '\x9f' :: rest => some rest
  | '\xe3' :: '\x80' :: '\x80' :: rest => some rest
  | '\xef' :: '\xbb' :: '\xbf' :: rest => some rest
  | _ => none

/-- Passes blanks and comments of all kinds, at most so many. -/
def dropLooseBlanks : Nat → List Char → List Char
  | 0, s => s
  | limit + 1, s =>
    match s with
    | [] => []
    | '/' :: '*' :: rest =>
      match afterComment? rest with
      | some rest => dropLooseBlanks limit rest
      | none => s
    | '/' :: '/' :: rest => dropLooseBlanks limit (afterLine rest)
    | c :: rest =>
      if c = ' ' || ('\t' ≤ c && c ≤ '\r') then dropLooseBlanks limit rest
      else
        match afterWideBlank? (c :: rest) with
        | some rest => dropLooseBlanks limit rest
        | none => s

/-- Passes all blanks and comments. -/
def afterBlanks (s : List Char) : List Char := dropLooseBlanks (s.length + 1) s

/-! ## Items -/

/-- What stands at a place of a document. -/
inductive Item where
  /-- A document, whether anything in it goes beyond the standard, and what follows it. -/
  | tree (t : JsonTree) (loose : Bool) (rest : List Char)
  /-- A sign that ends or separates items, which is the first character of what is ahead. -/
  | sign (loose : Bool) (ahead : List Char)
  | ended
  | fault (ahead : List Char)

/-- An item, some of which goes beyond the standard. -/
def Item.loosened : Item → Item
  | tree t _ rest => tree t true rest
  | sign _ ahead => sign true ahead
  | item => item

/-! ## Texts -/

/-- A hexadecimal digit. -/
def isHexDigit (c : Char) : Bool := (Text.hexValue? c).isSome

/-- Whether so many hexadecimal digits come first. -/
def startsWithHex (count : Nat) (s : List Char) : Bool :=
  (s.take count).length = count && (s.take count).all isHexDigit

/-- How long the escape is after its backslash, and whether it is one of the standard. -/
def escapeLength? : List Char → Option (Nat × Bool)
  | 'u' :: rest => if startsWithHex 4 rest then some (5, true) else none
  | 'x' :: rest => if startsWithHex 2 rest then some (3, false) else none
  | '\r' :: '\n' :: _ => some (2, false)
  | '\xe2' :: '\x80' :: '\xa8' :: _ => some (3, false)
  | '\xe2' :: '\x80' :: '\xa9' :: _ => some (3, false)
  | c :: _ =>
    if ['"', '\\', '/', 'b', 'f', 'n', 'r', 't'].contains c then some (1, true)
    else if ['\'', '0', 'v', '\n', '\r'].contains c then some (1, false)
    else none
  | [] => none

/-- The spelling of a text after its opening quote, its form, whether it goes beyond the
standard, and what follows it; or the place of a fault. -/
def textAt (quote : Char) : Nat → TextForm → Bool → List Char → List Char →
    Except (List Char) (SpelledText × Bool × List Char)
  | 0, _, _, _, s => .error s
  | _, _, _, _, [] => .error []
  | limit + 1, form, loose, read, c :: rest =>
    if c = quote then .ok (⟨form, read.reverse⟩, loose, rest)
    else if c = '\\' then
      match escapeLength? rest with
      | none => .error rest
      | some (length, standard) =>
        let form := if !standard then .loose else if form = .plain then .escaped else form
        textAt quote limit form (loose || !standard) ((c :: rest.take length).reverse ++ read)
          (rest.drop length)
    else if c.toNat < 0x20 then textAt quote limit .loose true (c :: read) rest
    else if c = '"' then textAt quote limit .loose loose (c :: read) rest
    else textAt quote limit form loose (c :: read) rest

/-- A text as an item. -/
def textItem (quote : Char) (s : List Char) : Item :=
  match textAt quote (s.length + 1) .plain (quote = '\'') [] s with
  | .ok (t, loose, rest) => .tree (.text t) loose rest
  | .error ahead => .fault ahead

/-! ## Numbers -/

/-- A number, as far as it is read: its last two characters, and what they belong to. -/
structure NumberState where
  last : Char
  beforeLast : Char
  hasPoint : Bool
  hasExponent : Bool
  loose : Bool

/-- Whether a point stands last that follows a digit. -/
def NumberState.endsInPoint (n : NumberState) : Bool := n.last = '.' && n.beforeLast.isDigit

/-- The rest of a number, and what follows it; or the place of a fault. -/
def numberRest : NumberState → List Char → List Char →
    Except (List Char) (NumberState × List Char × List Char)
  | n, read, s =>
    let finish : Except (List Char) (NumberState × List Char × List Char) :=
      if n.last.isDigit then .ok (n, read.reverse, s)
      else if n.endsInPoint then .ok ({ n with loose := true }, read.reverse, s)
      else .error s
    match s with
    | [] => finish
    | c :: rest =>
      if c.isDigit then numberRest { n with last := c, beforeLast := n.last } (c :: read) rest
      else if c = '.' then
        if n.hasPoint then .error s
        else
          numberRest { n with last := c, beforeLast := n.last, hasPoint := true } (c :: read) rest
      else if c = 'e' || c = 'E' then
        if (!n.last.isDigit && !n.endsInPoint) || n.hasExponent then .error s
        else
          let n : NumberState :=
            { n with hasPoint := true, hasExponent := true, loose := n.loose || !n.last.isDigit }
          match rest with
          | [] => .error s
          | d :: more =>
            if d.isDigit then numberRest { n with last := d, beforeLast := c } (d :: c :: read) more
            else if d = '+' || d = '-' then
              match more with
              | digit :: more =>
                if digit.isDigit then
                  numberRest { n with last := digit, beforeLast := d } (digit :: d :: c :: read) more
                else .error rest
              | [] => .error rest
            else .error s
      else finish

/-- A number that is not in base sixteen, from its first character on. -/
def decimalItem (loose : Bool) (first : Char) (rest : List Char) : Item :=
  let start : NumberState := ⟨first, first, first = '.', false, loose || first = '.'⟩
  match numberRest start [first] rest with
  | .error ahead => .fault ahead
  | .ok (n, spelling, rest) =>
    let spelling := if first = '+' then spelling.tail else spelling
    let tree : JsonTree :=
      if n.hasPoint then if n.loose then .looseReal spelling else .real spelling
      else .int spelling
    .tree tree (n.loose || first = '+') rest

/-- Whether a number in base sixteen begins here. -/
def startsHex : List Char → Bool
  | '0' :: x :: d :: _ => (x = 'x' || x = 'X') && isHexDigit d
  | _ => false

/-- A number in base sixteen after its sign. -/
def hexItem (sign : List Char) (s : List Char) : Item :=
  let digits := (s.drop 2).takeWhile isHexDigit
  .tree (.hex (sign ++ s.take 2 ++ digits)) true ((s.drop 2).dropWhile isHexDigit)

/-- Whether a text begins with a word in lower case; ASCII case does not count. -/
def startsWithWord (word : String) (s : List Char) : Bool :=
  Text.sameIgnoringCase (String.ofList (s.take word.length)) word

/-- A number after its sign. -/
def signedItem (sign : Char) (rest : List Char) : Item :=
  let ahead := sign :: rest
  match rest with
  | '0' :: d :: more =>
    if d.isDigit then .fault rest
    else if startsHex rest then hexItem (if sign = '-' then ['-'] else []) rest
    else decimalItem false sign ('0' :: d :: more)
  | c :: _ =>
    if c.isDigit then decimalItem false sign rest
    else if startsWithWord "inf" rest then
      let length := if startsWithWord "infinity" rest then 8 else 3
      .tree (.real (if sign = '-' then "-9e999".toList else "9e999".toList)) true
        (rest.drop length)
    else if c = '.' then decimalItem true sign rest
    else .fault ahead
  | [] => .fault ahead

/-- A number that begins with a digit. -/
def unsignedItem (c : Char) (rest : List Char) : Item :=
  if c = '0' && startsHex (c :: rest) then hexItem [] (c :: rest)
  else if c = '0' && rest.head?.any Char.isDigit then .fault rest
  else decimalItem false c rest

/-! ## Words -/

/-- The words that stand for values, whether in any case, and what they are. -/
def words : List (String × Bool × JsonTree) :=
  [("true", false, .truth true), ("false", false, .truth false), ("null", false, .null),
   ("infinity", true, .real "9e999".toList), ("inf", true, .real "9e999".toList),
   ("nan", true, .null), ("qnan", true, .null), ("snan", true, .null)]

/-- A word for a value; no letter or digit may follow it. -/
def wordItem (s : List Char) : Item :=
  let fits (entry : String × Bool × JsonTree) : Bool :=
    let (word, anyCase, _) := entry
    (if anyCase then startsWithWord word s else word.toList.isPrefixOf s) &&
      !(s.drop word.length).head?.any Char.isAlphanum
  match words.find? fits with
  | some (word, anyCase, tree) => .tree tree anyCase (s.drop word.length)
  | none => .fault s

/-! ## Arrays and objects -/

/-- A character that begins a label without quotes. -/
def startsLabel (c : Char) : Bool := c.isAlpha || c = '_' || c = '$' || 0x80 ≤ c.toNat

/-- Whether an escape of a character by its number comes next. -/
def startsUnicodeEscape : List Char → Bool
  | '\\' :: 'u' :: rest => startsWithHex 4 rest
  | _ => false

/-- The length of the rest of a label without quotes. -/
def labelLength : List Char → Nat
  | [] => 0
  | c :: rest =>
    let goesOn := (startsLabel c || c.isDigit) && (afterWideBlank? (c :: rest)).isNone
    if goesOn || startsUnicodeEscape (c :: rest) then labelLength rest + 1 else 0

/-- A label without quotes, and what follows it. -/
def bareLabel? (s : List Char) : Option (SpelledText × List Char) :=
  match s with
  | [] => none
  | c :: rest =>
    if startsLabel c || startsUnicodeEscape s then
      let spelling := s.take (labelLength rest + 1)
      some (⟨if spelling.contains '\\' then .escaped else .plain, spelling⟩,
        s.drop spelling.length)
    else none

/-- What is read of an array or an object. -/
inductive Part (α : Type) where
  | closed (parts : List α) (loose : Bool) (rest : List Char)
  | fault (ahead : List Char)

/-- How deep documents may be. -/
def depthLimit : Nat := 1000

section
variable (item : List Char → Item)

/-- Where an item has ended: whether another one follows, and what is ahead; or the place of a
fault. -/
def separator (closing : Char) (s : List Char) : Except (List Char) (Bool × Bool × List Char) :=
  match s.dropWhile isBlank with
  | [] => .error []
  | c :: rest =>
    if c = ',' then .ok (true, false, rest)
    else if c = closing then .ok (false, false, rest)
    else
      match item (c :: rest) with
      | .sign loose (d :: more) =>
        if d = ',' then .ok (true, loose, more)
        else if d = closing then .ok (false, loose, more)
        else .error (c :: rest)
      | _ => .error (c :: rest)

/-- The items of an array after its bracket or a comma, at most so many. -/
def itemsFrom : Nat → Bool → List Char → Part JsonTree
  | 0, _, s => .fault s
  | limit + 1, first, s =>
    match item s with
    | .sign loose (']' :: rest) => .closed [] (loose || !first) rest
    | .tree t loose rest =>
      match separator item ']' rest with
      | .error ahead => .fault ahead
      | .ok (false, loose', rest) => .closed [t] (loose || loose') rest
      | .ok (true, loose', rest) =>
        match itemsFrom limit false rest with
        | .closed parts others rest => .closed (t :: parts) (loose || loose' || others) rest
        | .fault ahead => .fault ahead
    | .fault ahead => .fault ahead
    | .sign .. | .ended => .fault s

/-- What follows the colon after a label. -/
def afterColon (s : List Char) : Except (List Char) (Bool × List Char) :=
  match s.dropWhile isBlank with
  | ':' :: rest => .ok (false, rest)
  | ahead =>
    match item ahead with
    | .sign loose (':' :: rest) => .ok (loose, rest)
    | .fault place => .error place
    | _ => .error ahead

/-- The value after a label, and what follows it. -/
def valueAfter (s : List Char) : Except (List Char) (JsonTree × Bool × List Char) := do
  let (loose, rest) ← afterColon item s
  match item rest with
  | .tree t loose' after => return (t, loose || loose', after)
  | .fault ahead => .error ahead
  | .sign .. | .ended => .error rest

/-- The members of an object after its bracket or a comma, at most so many. -/
def membersFrom : Nat → Bool → List Char → Part (SpelledText × JsonTree)
  | 0, _, s => .fault s
  | limit + 1, first, s =>
    let member (label : SpelledText) (loose : Bool) (rest : List Char) :
        Part (SpelledText × JsonTree) :=
      match valueAfter item rest with
      | .error ahead => .fault ahead
      | .ok (t, loose', rest) =>
        match separator item '}' rest with
        | .error ahead => .fault ahead
        | .ok (false, loose'', rest) => .closed [(label, t)] (loose || loose' || loose'') rest
        | .ok (true, loose'', rest) =>
          match membersFrom limit false rest with
          | .closed parts others rest =>
            .closed ((label, t) :: parts) (loose || loose' || loose'' || others) rest
          | .fault ahead => .fault ahead
    let bare (place : List Char) : Part (SpelledText × JsonTree) :=
      match bareLabel? (afterBlanks s) with
      | some (label, rest) => member label true rest
      | none => .fault place
    match item s with
    | .sign loose ('}' :: rest) => .closed [] (loose || !first) rest
    | .tree (.text label) loose rest => member label loose rest
    | .tree .. => .fault s
    | .fault ahead => bare ahead
    | .sign .. | .ended => bare (afterBlanks s)

end

/-- The item at a place, of a limited depth. -/
def itemAt : Nat → List Char → Item
  | 0, s => .fault s
  | depth + 1, s =>
    let plain := s.dropWhile isBlank
    let ahead := afterBlanks plain
    let item : Item :=
      match ahead with
      | [] => .ended
      | '[' :: rest =>
        match itemsFrom (itemAt depth) (rest.length + 1) true rest with
        | .closed parts loose rest => .tree (.array parts) loose rest
        | .fault place => .fault (if depth = 0 then ahead else place)
      | '{' :: rest =>
        match membersFrom (itemAt depth) (rest.length + 1) true rest with
        | .closed parts loose rest =>
          .tree (.object (parts.map (·.1)) (parts.map (·.2))) loose rest
        | .fault place => .fault (if depth = 0 then ahead else place)
      | '"' :: rest => textItem '"' rest
      | '\'' :: rest => textItem '\'' rest
      | c :: rest =>
        if c = '}' || c = ']' || c = ',' || c = ':' then .sign false ahead
        else if c = '+' || c = '-' then signedItem c rest
        else if c = '.' then
          if rest.head?.any Char.isDigit then decimalItem true c rest else .fault ahead
        else if c.isDigit then unsignedItem c rest
        else wordItem ahead
    if ahead.length = plain.length then item else item.loosened

/-! ## Whole documents -/

/-- A document and whether anything in it goes beyond the standard, or the place of a fault:
how many bytes come before it. -/
def read (s : List Char) : Except Nat (JsonTree × Bool) :=
  match itemAt (depthLimit + 1) s with
  | .tree t loose rest =>
    let rest := rest.dropWhile isBlank
    if rest.isEmpty then .ok (t, loose)
    else if (afterBlanks rest).isEmpty then .ok (t, true)
    else .error 0
  | .fault ahead => .error (s.length - ahead.length)
  | .sign _ ahead => .error (s.length - ahead.length)
  | .ended => .error 0

end JsonTree

end DottedQuery.Store
