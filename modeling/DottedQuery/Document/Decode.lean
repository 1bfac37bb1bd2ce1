/-
# DottedQuery.Document.Decode -- reading structure out of a document

A decoder looks at one node of a document and returns a value or the first fault in
reading order. Decoders for texts, lists, dictionaries, options, variants and structures
are built here. The formats differ in a few places, which the decoders name: a structure may
be written as a list in JSON and TOML, an optional value may be a null word in YAML, and an
empty YAML word is an empty collection.
-/
import DottedQuery.Dict
import DottedQuery.Document.Yaml.Word
import DottedQuery.Value

namespace DottedQuery.Document

/-- Reads a value from a node of a document of some format. -/
abbrev Decoder (α : Type) := Format → Node → Except Error α

/-! ## What is found -/

/-- A settled scalar as something found. A word is taken for text. -/
def Scalar.found : Scalar → Found
  | null => .null
  | bool b => .bool b
  | int n => .int n
  | float x => .float x
  | text s | word _ _ s => .text s
  | date _ => .record

/-- What stands at a node. -/
def foundAt : Node → Except Error Found
  | .scalar (.word tag plain s) => (Yaml.word tag plain s).map Scalar.found
  | .scalar s => .ok s.found
  | .list _ _ => .ok .list
  | .record _ _ => .ok .record
  | .absent => .error .misshapen
  | .broken => .error .malformed

/-- The fault that something else was expected at a node. -/
def unexpected {α : Type} (node : Node) (expected : String) : Except Error α := do
  .error (.wrongType (← foundAt node) expected)

/-! ## Scalars -/

/-- A text, under the name by which it is expected. In YAML every scalar is a text. -/
def textAs (expected : String) : Decoder String := fun _ node =>
  match node with
  | .scalar (.text s) | .scalar (.word _ _ s) => .ok s
  | node => unexpected node expected

/-- A text. -/
def text : Decoder String := textAs "a string"

/-- A truth value. -/
def truth : Decoder Bool := fun _ node =>
  match node with
  | .scalar (.bool b) => .ok b
  | node => unexpected node "a boolean"

/-- How a value is expected in messages. -/
def scalarExpected : String := "a scalar value (string, number, boolean or null)"

/-- A settled scalar as a value. Integers have to fit 64 bits with a sign. -/
def valueOfScalar : Scalar → Except Error Value
  | .null => .ok .null
  | .bool b => .ok (.bool b)
  | .int n =>
    if Int64.minValue.toInt ≤ n ∧ n ≤ Int64.maxValue.toInt then .ok (.int (Int64.ofInt n))
    else if 0 ≤ n ∧ n < UInt64.size then .error (.outOfRange n)
    else .error (.wrongType (.int n) scalarExpected)
  | .float x => .ok (.float x)
  | .text s | .word _ _ s => .ok (.text s)
  | .date _ => .error (.wrongType .record scalarExpected)

/-- Whether a tag asks for a variant of the document's own. -/
def asksVariant (tag : Option String) : Bool := (tag.map Yaml.isOwnTag).getD false

/-- A scalar value. -/
def value : Decoder Value := fun _ node =>
  match node with
  | .absent => .ok .null
  | .scalar (.word tag plain s) =>
    if asksVariant tag then .error (.wrongType .variant scalarExpected)
    else do valueOfScalar (← Yaml.word tag plain s)
  | .scalar s => valueOfScalar s
  | node@(.list tag _) | node@(.record tag _) =>
    if asksVariant tag then .error (.wrongType .variant scalarExpected)
    else unexpected node scalarExpected
  | node => unexpected node scalarExpected

/-! ## Options and collections -/

/-- Whether a node stands for the absence of an optional value. -/
def isMissing (format : Format) : Node → Except Error Bool
  | .absent => .ok true
  | .scalar .null => .ok (format = .json)
  | .scalar (.word tag plain s) => Yaml.isAbsent tag plain s
  | .broken => .error .malformed
  | _ => .ok false

/-- An optional value. -/
def optional {α : Type} (decode : Decoder α) : Decoder (Option α) := fun format node => do
  if ← isMissing format node then return none
  else return some (← decode format node)

/-- A node that stands for an empty collection: no content, or an empty plain word. -/
def isBare : Node → Bool
  | .absent => true
  | .scalar (.word _ plain s) => plain && s.isEmpty
  | _ => false

/-- A list of values of one kind. -/
def list {α : Type} (decode : Decoder α) : Decoder (List α) := fun format node =>
  match node with
  | .list _ items => items.mapM (decode format)
  | node => if isBare node then .ok [] else unexpected node "a sequence"

/-- The only key of a date where a record is read from it. -/
def dateKey : String := "$__toml_private_datetime"

/-- The members of a node that is a record or stands for one. -/
def members? : Node → Option (List (Node × Node))
  | .record _ members => some members
  | .scalar (.date s) => some [(.scalar (.text dateKey), .scalar (.text s))]
  | node => if isBare node then some [] else none

/-- A dictionary. A repeated key keeps its place and takes the last value. -/
def dict {α : Type} (decode : Decoder α) : Decoder (Dict α) := fun format node =>
  match members? node with
  | none => unexpected node "a map"
  | some members =>
    members.foldlM (fun entries member => do
      let key ← text format member.1
      return entries.insert key (← decode format member.2)) .empty

/-! ## Variants -/

/-- The variant with this name. -/
def variantNamed {α : Type} (variants : List (String × α)) (name : String) : Except Error α :=
  match variants.lookup name with
  | some variant => .ok variant
  | none => .error (.unknownVariant name (variants.map (·.1)))

/-- A variant without content: its name, or a record of its name and nothing. In JSON that
nothing is null, in TOML an empty table or array. -/
def variant {α : Type} (variants : List (String × α)) : Decoder α := fun format node =>
  match format, node with
  | _, .scalar (.text name) => variantNamed variants name
  | .json, .record _ ((.scalar (.text name), content) :: rest) => do
    let result ← variantNamed variants name
    match content with
    | .scalar .null => if rest.isEmpty then .ok result else .error .misshapen
    | content => unexpected content "unit"
  | .toml, .record _ [(.scalar (.text name), content)] => do
    let result ← variantNamed variants name
    match content with
    | .record _ [] | .list _ [] => .ok result
    | _ => .error .misshapen
  | _, _ => .error .misshapen

/-! ## Structures -/

/-- What a structure has been read from so far. -/
structure Filling (σ : Type) where
  slots : σ
  /-- The fields met so far. -/
  seen : List String := []
  /-- Whether the structure is written as a list of its fields. -/
  listed : Bool := false

/-- One member of a structure: a known field, met for the first time. -/
def fillMember {σ : Type} (fields : List String) (fill : String → Node → σ → Except Error σ)
    (format : Format) (filling : Filling σ) (member : Node × Node) : Except Error (Filling σ) := do
  let name ← textAs "field identifier" format member.1
  if !fields.contains name then .error (.unknownField name fields)
  else if filling.seen.contains name then .error (.duplicateField name)
  else
    return { filling with
      slots := ← fill name member.2 filling.slots
      seen := name :: filling.seen }

/-- A structure with named fields. `fill` reads a field into its slot. A list gives the
fields in order; in JSON it must not be longer than the structure. -/
def struct {σ : Type} (name : String) (fields : List String) (start : σ)
    (fill : String → Node → σ → Except Error σ) : Decoder (Filling σ) := fun format node =>
  match format, node, members? node with
  | _, _, some members => members.foldlM (fillMember fields fill format) ⟨start, [], false⟩
  | .yaml, _, none => unexpected node ("struct " ++ name)
  | format, .list _ items, none => do
    let slots ← (fields.zip items).foldlM (fun slots field => fill field.1 field.2 slots) start
    if format = .json ∧ fields.length < items.length then .error .misshapen
    else return ⟨slots, fields.take items.length, true⟩
  | _, _, none => unexpected node ("struct " ++ name)

/-- A field that has to be there. -/
def Filling.require {σ α : Type} (filling : Filling σ) (name : String) (slot : σ → Option α) :
    Except Error α :=
  match slot filling.slots with
  | some a => .ok a
  | none => .error (if filling.listed then .misshapen else .missingField name)

/-- Reads a whole document: its root, and then nothing may be left over. -/
def decode {α : Type} (d : Document) (decode : Decoder α) : Except Error α := do
  let result ← decode d.format d.root
  if d.overrun then .error .malformed else return result

end DottedQuery.Document
