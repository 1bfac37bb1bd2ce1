/-
# DottedQuery.Store.JsonTree.Path -- places in JSON documents

A path goes from a document to one of its parts, step by step: to the value of a label, after
a point, or to an item of an array, in brackets. A path is only looked at as far as the
document has parts, and a step that leads nowhere is no fault of the path. A part can be taken
out, or another put in its place; on the way what is missing may be made.
-/
import DottedQuery.Store.JsonTree.Basic

namespace DottedQuery.Store

namespace JsonTree

/-! ## Steps -/

/-- A step of a path. -/
inductive PathStep where
  | member (label : SpelledText)
  | item (place : Nat)
  /-- An item by its place counted from behind the last. -/
  | fromEnd (distance : Nat)

/-- A number of a path, of which 32 bits count. -/
def placeOf (digits : List Char) : Nat := Decimal.natOfDigits digits % Nat.pow 2 32

/-- A label in double quotes after the opening quote. -/
def quotedLabel? (s : List Char) : Option (PathStep × List Char) :=
  let label := s.takeWhile (· ≠ '"')
  match s.dropWhile (· ≠ '"') with
  | _ :: rest => some (.member ⟨if label.contains '\\' then .loose else .raw, label⟩, rest)
  | [] => none

/-- A label without quotes. -/
def plainLabel? (s : List Char) : Option (PathStep × List Char) :=
  let isEnd (c : Char) : Bool := c = '.' || c = '['
  let label := s.takeWhile (!isEnd ·)
  if label.isEmpty then none else some (.member ⟨.raw, label⟩, s.dropWhile (!isEnd ·))

/-- The place of an item after its bracket. -/
def place? (s : List Char) : Option (PathStep × List Char) :=
  let digits := s.takeWhile Char.isDigit
  match s, s.dropWhile Char.isDigit with
  | _, ']' :: rest =>
    if digits.isEmpty then none else some (.item (placeOf digits), rest)
  | '#' :: ']' :: rest, _ => some (.fromEnd 0, rest)
  | '#' :: '-' :: rest, _ =>
    let digits := rest.takeWhile Char.isDigit
    match rest.dropWhile Char.isDigit with
    | ']' :: rest => if digits.isEmpty then none else some (.fromEnd (placeOf digits), rest)
    | _ => none
  | _, _ => none

/-- The first step of a path, and the steps after it. -/
def step? : List Char → Option (PathStep × List Char)
  | '.' :: '"' :: rest => quotedLabel? rest
  | '.' :: rest => plainLabel? rest
  | '[' :: rest => place? rest
  | _ => none

/-! ## Looking up -/

/-- What a path leads to. -/
inductive Found (α : Type) where
  | part (part : α)
  | nothing
  /-- The path makes no sense. -/
  | fault

/-- The place of an item among so many, unless it lies before the first. -/
def placeAmong? (count : Nat) : PathStep → Option Nat
  | .item place => some place
  | .fromEnd distance => if count < distance then none else some (count - distance)
  | .member _ => none

/-- The part that a path leads to, in at most so many steps. -/
def lookUp : Nat → JsonTree → List Char → Found JsonTree
  | _, t, [] => .part t
  | 0, _, _ => .fault
  | limit + 1, t, path =>
    match path, t with
    | '[' :: _, array items =>
      match step? path with
      | none => .fault
      | some (step, rest) =>
        match (placeAmong? items.length step).bind (items[·]?) with
        | some item => lookUp limit item rest
        | none => .nothing
    | '[' :: _, _ => .nothing
    | '.' :: _, t =>
      match step? path, t with
      | some (.member key, rest), object labels values =>
        match (labels.zip values).find? fun (label, _) => label.isLabel key with
        | some (_, value) => lookUp limit value rest
        | none => .nothing
      | some _, _ => .nothing
      | none, _ => .fault
    | _, _ => .fault

/-! ## Changing -/

/-- What is done at the end of a path. -/
inductive Change where
  | remove
  /-- Puts another document in the place of one that is there. -/
  | replace (new : JsonTree)
  /-- Puts a document where there is none. -/
  | insert (new : JsonTree)
  /-- Puts a document there in any case. -/
  | set (new : JsonTree)

/-- The document that is put in where there is none. -/
def Change.fresh? : Change → Option JsonTree
  | insert new | set new => some new
  | remove | replace _ => none

/-- What a change makes of what is there, if it leaves anything. -/
def Change.apply (change : Change) (t : JsonTree) : Option JsonTree :=
  match change with
  | remove => none
  | insert _ => some t
  | replace new | set new => some new

/-- Puts something in the place of the element at a position, or leaves it out. -/
def putAt {α : Type} (xs : List α) (i : Nat) (x : Option α) : List α :=
  xs.take i ++ x.toList ++ xs.drop (i + 1)

/-- An empty document that the first step of a path leads into. -/
def emptyFor : List Char → JsonTree
  | '.' :: _ => object [] []
  | _ => array []

/-- What a change at the end of a path leaves of a document, in at most so many steps. -/
def changed (change : Change) : Nat → JsonTree → List Char → Found (Option JsonTree)
  | _, t, [] => .part (change.apply t)
  | 0, _, _ => .fault
  | limit + 1, t, path =>
    let fresh (rest : List Char) (put : JsonTree → JsonTree) : Found (Option JsonTree) :=
      match change.fresh? with
      | none => .nothing
      | some new =>
        if rest.isEmpty then .part (some (put new))
        else
          match changed change limit (emptyFor rest) rest with
          | .part (some made) => .part (some (put made))
          | .part none => .nothing
          | .nothing => .nothing
          | .fault => .fault
    match path, t with
    | '[' :: _, array items =>
      match step? path with
      | none => .fault
      | some (step, rest) =>
        match placeAmong? items.length step with
        | none => .nothing
        | some place =>
          match items[place]? with
          | some item =>
            match changed change limit item rest with
            | .part new => .part (some (array (putAt items place new)))
            | .nothing => .nothing
            | .fault => .fault
          | none =>
            if place = items.length then fresh rest fun new => array (items ++ [new])
            else .nothing
    | '[' :: _, _ => .nothing
    | '.' :: _, t =>
      match step? path, t with
      | some (.member key, rest), object labels values =>
        match labels.findIdx? (·.isLabel key) with
        | some i =>
          match changed change limit (values.getD i .null) rest with
          | .part (some new) => .part (some (object labels (values.set i new)))
          | .part none => .part (some (object (putAt labels i none) (putAt values i none)))
          | .nothing => .nothing
          | .fault => .fault
        | none => fresh rest fun new => object (labels ++ [key]) (values ++ [new])
      | some _, _ => .nothing
      | none, _ => .fault
    | _, _ => .fault

/-! ## Merging -/

/-- A document with the members of another in the place of its own; what is null there is left
out. Anything but an object takes the place of the whole. At most so deep. -/
def merged : Nat → JsonTree → JsonTree → JsonTree
  | 0, t, _ => t
  | depth + 1, t, patch =>
    match patch with
    | object newLabels newValues =>
      let start : List (SpelledText × JsonTree) :=
        match t with
        | object labels values => labels.zip values
        | _ => []
      let members := (newLabels.zip newValues).foldl (fun members (label, value) =>
        match members.findIdx? fun (known, _) => known.isLabel label, value with
        | some i, null => putAt members i none
        | none, null => members
        | some i, value =>
          match members[i]? with
          | some (known, old) => putAt members i (some (known, merged depth old value))
          | none => members
        | none, object labels values =>
          members ++ [(label, merged depth (object [] []) (object labels values))]
        | none, value => members ++ [(label, value)]) start
      object (members.map (·.1)) (members.map (·.2))
    | other => other

end JsonTree

end DottedQuery.Store
