/-
# DottedQuery.Store.Definition -- what a table definition says

A definition names the columns of a table one after the other, each with a type and with
constraints, and then constraints on the table. What it says is put together while it is
read: the readers follow the grammar and leave the meaning of each part to a function on the
definition so far, which may refuse it. What the names in expressions mean is settled at the
end.
-/
import DottedQuery.Store.Database
import DottedQuery.Store.Evaluation
import DottedQuery.Store.ExpressionReading
import DottedQuery.Store.Settling

namespace DottedQuery.Store

/-! ## Definitions -/

/-- What happens to a new record that does not meet a constraint. -/
inductive Conflict where
  /-- The statement fails. -/
  | abort
  /-- The record is left out. -/
  | ignore
  /-- The record takes the place of those it conflicts with. -/
  | replace
  deriving DecidableEq, Repr

/-- The value of a column where none is given. -/
inductive Preset where
  | none
  | cell (cell : Cell)
  /-- What an expression gives, which is not worked out. -/
  | unknown
  deriving Repr

/-- What an expression in which no column occurs gives. -/
def Preset.ofExpression (e : Expression) : Preset :=
  if e.understood then (e.constant.toOption.map Preset.cell).getD .unknown else .unknown

/-- A condition on the records of a table, and the name it goes by. -/
structure Check where
  name : String
  condition : Expression

/-- What the cells of a column follow from, and whether they are stored. -/
structure Computation where
  expression : Expression
  stored : Bool

/-- The types that the columns of a strict table can have. -/
inductive StrictType where
  | any
  | blob
  | integer
  | real
  | text
  deriving DecidableEq, Repr

/-- The types of strict tables by their names. -/
def strictTypes : List (String × StrictType) :=
  [("any", .any), ("blob", .blob), ("int", .integer), ("integer", .integer), ("real", .real),
   ("text", .text)]

/-- Whether a column of a strict table admits a cell. -/
def StrictType.admits (type : StrictType) (cell : Cell) : Bool :=
  match type, cell with
  | any, _ | _, .null | blob, .blob _ | integer, .int _ | real, .real _ | text, .text _ => true
  | _, _ => false

/-- What a definition says of a column. `required` tells what happens to a null, if none is
admitted, and `computation` what the cells follow from, if they do. -/
structure ColumnDefinition where
  name : String
  declared : String
  /-- The type that the column has if the table is strict. -/
  strictType : Option StrictType := none
  collation : Collation := .binary
  required : Option Conflict := none
  preset : Preset := .none
  computation : Option Computation := none
  isPrimary : Bool := false
  /-- Whether the type is the one that keys have. -/
  isInteger : Bool := false
  /-- Whether the table is strict. -/
  isStrict : Bool := false

/-- The column whose cells are the keys of the records. -/
structure KeyColumn where
  position : Nat
  conflict : Option Conflict
  /-- Whether a key is never given twice. -/
  rising : Bool
  deriving DecidableEq, Repr

/-- A column of a key: its position, the collation that is named for it, and whether the order
is falling. -/
structure KeyPart where
  position : Nat
  collation : Option Collation := none
  falling : Bool := false
  deriving DecidableEq, Repr

/-- Columns that no two records agree on. -/
structure UniqueColumns where
  parts : List KeyPart
  conflict : Option Conflict
  deriving DecidableEq, Repr

/-- The positions of the columns. -/
def UniqueColumns.positions (u : UniqueColumns) : List Nat := u.parts.map (·.position)

/-- What a definition says of a table. -/
structure TableDefinition where
  name : String
  columns : List ColumnDefinition := []
  key : Option KeyColumn := none
  /-- The columns of the primary key. -/
  primary : List KeyPart := []
  uniques : List UniqueColumns := []
  foreignKeys : List ForeignKey := []
  checks : List Check := []
  /-- The name of the constraints that are being read. -/
  constraintName : Option String := none
  /-- Whether the records are kept by their keys. -/
  keyed : Bool := true
  /-- Whether cells have to be of the types of their columns. -/
  strict : Bool := false

namespace ColumnDefinition

/-- Whether the cells follow from others. -/
def computed (d : ColumnDefinition) : Bool := d.computation.isSome

/-- What the column makes of cells. -/
def affinity (d : ColumnDefinition) : Affinity :=
  if d.isStrict && d.strictType = some .any then .any else .ofDeclared d.declared

/-- The column. -/
def column (d : ColumnDefinition) : Column where
  name := d.name
  declared := d.declared
  affinity := d.affinity
  collation := d.collation
  computed := d.computed
  required := d.required.isSome

/-- Whether the column has a value where none is given. -/
def hasPreset (d : ColumnDefinition) : Bool :=
  match d.preset with
  | .none => false
  | .cell _ | .unknown => true

end ColumnDefinition

namespace TableDefinition

/-! ## Columns and their properties -/

/-- The position of the column of this name; ASCII case does not count. -/
def position? (d : TableDefinition) (name : String) : Option Nat :=
  d.columns.findIdx? fun c => Text.sameIgnoringCase c.name name

/-- How many columns a table may have. -/
def columnLimit : Nat := 2000

/-- Whether a type is the one that keys have, with quotes around all of it or without. -/
def isKeyType (type : List Char) : Bool :=
  let isQuote (c : Char) : Bool := ['"', '\'', '\x60', '['].contains c
  let bare :=
    match type with
    | c :: rest => if isQuote c && !rest.dropLast.any isQuote then rest.dropLast else type
    | [] => []
  Text.sameIgnoringCase (String.ofList bare) "integer"

/-- Adds a column of a type as it is written. What follows a type in quotes does not count. -/
def addColumn (d : TableDefinition) (name : String) (type : List Char) :
    Except Fault TableDefinition :=
  if columnLimit ≤ d.columns.length then .error ⟨"too many columns on " ++ d.name, none⟩
  else if (d.position? name).isSome then .error ⟨"duplicate column name: " ++ name, none⟩
  else
    let declared := String.ofList (Token.unquoted type)
    let strictType := (strictTypes.find? fun entry =>
      Text.sameIgnoringCase entry.1 (String.ofList type)).map (·.2)
    let column : ColumnDefinition := { name, declared, strictType, isInteger := isKeyType type }
    .ok { d with columns := d.columns ++ [column], constraintName := none }

/-- Changes the column that was added last. -/
def changeLast (d : TableDefinition) (change : ColumnDefinition → ColumnDefinition) :
    TableDefinition :=
  { d with columns := d.columns.modify (d.columns.length - 1) change }

/-- Lets the last column compare by the collation of this name. -/
def collate (d : TableDefinition) (name : String) : Except Fault TableDefinition :=
  match collationOf? name with
  | some collation => .ok (d.changeLast ({ · with collation }))
  | none => .error ⟨"no such collation sequence: " ++ name, none⟩

/-- Where the value of a column by default stands. No name is known there but those of truth
values, and nothing is asked of calls. -/
def presetPlace (fault : Fault) : Place where
  name qualifiers token :=
    match qualifiers, Expression.truthOf? token with
    | [], some b => return .truth b
    | _, _ => throw fault
  barred _ _ := fault
  call _ _ _ := none

/-- Gives the last column a value where none is given. -/
def addPreset (d : TableDefinition) (e : Expression) : Except Fault TableDefinition := do
  let last := d.columns.getLast?
  let name := (last.map (·.name)).getD ""
  let fault : Fault := ⟨"default value of column [" ++ name ++ "] is not constant", none⟩
  let e ← ((presetPlace fault).settle e).outcome
  if last.any (·.computed) then throw ⟨"cannot use DEFAULT on a generated column", none⟩
  return d.changeLast ({ · with preset := .ofExpression e })

/-- The refusal of a computed column in a primary key. -/
def computedKey : Fault := ⟨"generated columns cannot be part of the PRIMARY KEY", none⟩

/-- A name that stands by itself gives its value as an operation. -/
def kept : Expression → Expression
  | .name [] token => .apply .keep [.name [] token]
  | e => e

/-- Lets the cells of the last column follow from others, in one of two ways that can be
named. -/
def compute (d : TableDefinition) (e : Expression) (way : Option String) :
    Except Fault TableDefinition :=
  let known := way.all fun way => ["virtual", "stored"].any (Text.sameIgnoringCase way)
  let last := d.columns.getLast?
  if !known || last.any (fun c => c.hasPreset || c.computed) then
    .error ⟨"error in generated column \"" ++ (last.map (·.name)).getD "" ++ "\"", none⟩
  else if last.any (·.isPrimary) then .error computedKey
  else
    let stored := way.any (Text.sameIgnoringCase "stored")
    .ok (d.changeLast ({ · with computation := some ⟨kept e, stored⟩ }))

/-- Puts a condition on the records. It goes by the name of the constraint, or by its text
without the quotes that this begins with. -/
def addCheck (d : TableDefinition) (e : Expression) (text : List Char) : TableDefinition :=
  let name := d.constraintName.getD (String.ofList (Token.unquoted text))
  { d with checks := d.checks ++ [⟨name, e⟩] }

/-! ## Keys -/

/-- How the texts of a column of a key compare. -/
def collationOf (d : TableDefinition) (part : KeyPart) : Collation :=
  part.collation.getD (((d.columns[part.position]?).map (·.collation)).getD .binary)

/-- A column of a key as a column of an order. -/
def indexColumn (d : TableDefinition) (part : KeyPart) : IndexColumn :=
  ⟨part.position, d.collationOf part, part.falling⟩

/-- Lets no two records agree on columns. A second such constraint on the same columns adds
nothing, but may tell what happens in a conflict. -/
def addUnique (d : TableDefinition) (parts : List KeyPart) (conflict : Option Conflict) :
    Except Fault TableDefinition :=
  let what (part : KeyPart) : Nat × Collation := (part.position, d.collationOf part)
  match d.uniques.find? fun u => u.parts.map what = parts.map what with
  | none => .ok { d with uniques := d.uniques ++ [⟨parts, conflict⟩] }
  | some earlier =>
    if earlier.conflict.isSome && conflict.isSome && earlier.conflict ≠ conflict then
      .error ⟨"conflicting ON CONFLICT clauses specified", none⟩
    else
      let joined : UniqueColumns := ⟨earlier.parts, earlier.conflict <|> conflict⟩
      .ok { d with uniques := d.uniques.map fun u => if u = earlier then joined else u }

/-- The refusal of keys that only rise, where no column holds the keys. -/
def misplacedRising : Fault := ⟨"AUTOINCREMENT is only allowed on an INTEGER PRIMARY KEY", none⟩

/-- Makes columns the primary key. One column of integers in rising order holds the keys of
the records. -/
def addPrimaryKey (d : TableDefinition) (parts : List KeyPart) (falling : Bool)
    (conflict : Option Conflict) (rising : Bool) : Except Fault TableDefinition :=
  let positions := parts.map (·.position)
  let mark (i : Nat) (c : ColumnDefinition) : ColumnDefinition :=
    if positions.contains i then { c with isPrimary := true } else c
  let marked : TableDefinition :=
    { d with columns := d.columns.mapIdx mark, primary := parts }
  let holdsKeys : Bool :=
    match positions with
    | [i] => !falling && d.columns[i]?.any (·.isInteger)
    | _ => false
  if d.columns.any (·.isPrimary) then
    .error ⟨"table \"" ++ d.name ++ "\" has more than one primary key", none⟩
  else if rising && !holdsKeys then .error misplacedRising
  else if positions.any fun i => d.columns[i]?.any (·.computed) then .error computedKey
  else if holdsKeys then
    .ok { marked with key := positions.head?.map (⟨·, conflict, rising⟩) }
  else marked.addUnique parts conflict

/-- The names of the indexes that the constraints need beside the tree of the table. -/
def indexNames (d : TableDefinition) : List String :=
  let entries := d.uniques.zipIdx.filter fun (u, _) => d.keyed || u.parts ≠ d.primary
  entries.map fun (_, i) => "sqlite_autoindex_" ++ d.name ++ "_" ++ toString (i + 1)

/-! ## Options -/

/-- Lets the columns admit only cells of their types. -/
def strictly (d : TableDefinition) : Except Fault TableDefinition := do
  for c in d.columns do
    if c.strictType.isNone then
      let name := d.name ++ "." ++ c.name
      if c.declared.isEmpty then throw ⟨"missing datatype for " ++ name, none⟩
      else throw ⟨"unknown datatype for " ++ name ++ ": \"" ++ c.declared ++ "\"", none⟩
  let restricted (c : ColumnDefinition) : ColumnDefinition := { c with isStrict := true }
  return { d with columns := d.columns.map restricted }

/-- Lets the columns at some positions admit no nulls. -/
def requireAt (d : TableDefinition) (positions : List Nat) : TableDefinition :=
  let required (i : Nat) (c : ColumnDefinition) : ColumnDefinition :=
    if positions.contains i then { c with required := c.required <|> some .abort } else c
  { d with columns := d.columns.mapIdx required }

/-- Keeps the records by their primary key. -/
def withoutKeys (d : TableDefinition) : Except Fault TableDefinition :=
  if d.key.any (·.rising) then
    .error ⟨"AUTOINCREMENT not allowed on WITHOUT ROWID tables", none⟩
  else if d.primary.isEmpty then .error ⟨"PRIMARY KEY missing on table " ++ d.name, none⟩
  else
    match d.key with
    | none => .ok d
    | some key => ({ d with key := none }).addUnique d.primary key.conflict

/-- Settles what the options of the table demand. -/
def optionsSettled (d : TableDefinition) : Except Fault TableDefinition := do
  let d ← if d.strict then d.strictly else .ok d
  let d ← if d.keyed then .ok d else d.withoutKeys
  let isKey (i : Nat) : Bool := d.key.any (·.position = i)
  let needed := (d.primary.map (·.position)).filter (!isKey ·)
  return if d.strict || !d.keyed then d.requireAt needed else d

/-! ## Foreign keys -/

/-- Lets columns refer to a parent table. -/
def addForeignKey (d : TableDefinition) (columns : List String) (parent : String)
    (parentColumns : Option (List String)) : Except Fault TableDefinition := do
  if parentColumns.any (·.length ≠ columns.length) then
    throw ⟨"number of columns in foreign key does not match the number of columns in the " ++
      "referenced table", none⟩
  let columns ← columns.mapM fun name =>
    match d.position? name with
    | some i => .ok ((d.columns[i]?.map (·.name)).getD name)
    | none => .error ⟨"unknown column \"" ++ name ++ "\" in foreign key definition", none⟩
  return { d with foreignKeys := d.foreignKeys ++ [⟨columns, parent, parentColumns⟩] }

/-! ## Names in expressions -/

/-- Settles what a name means: a column, in a check also the key of the record, a truth value,
or a text in double quotes. In a check the name of the database does not count; in what a
column follows from, a name of the table is noted. -/
def settleName (d : TableDefinition) (inCheck : Bool) (qualifiers : List Token) (token : Token) :
    Settling Expression := do
  let first := qualifiers.headD token
  let qualifiers := if inCheck then qualifiers.drop (qualifiers.length - 1) else qualifiers
  let spelled := ".".intercalate ((qualifiers ++ [token]).map (·.name))
  let missing : Fault := ⟨"no such column: " ++ spelled, some first.offset⟩
  let isOwn : Bool :=
    match qualifiers with
    | [] => true
    | [table] => Text.sameIgnoringCase table.name d.name
    | schema :: table :: _ =>
      Text.sameIgnoringCase schema.name "main" && Text.sameIgnoringCase table.name d.name
  if !inCheck && !qualifiers.isEmpty then
    Settling.note ⟨"the \".\" operator prohibited in generated columns", some first.offset⟩
  if !isOwn then throw missing
  match d.position? token.name with
  | some i => return .column i
  | none =>
    if inCheck && d.keyed && keyNames.any (Text.sameIgnoringCase token.name) then
      return .column d.columns.length
    else if !qualifiers.isEmpty then throw missing
    else
      match Expression.truthOf? token with
      | some b => return .truth b
      | none => if token.spelling.head? = some '"' then return .ofText token.name else throw missing

/-- A check, or what a computed column follows from. -/
def place (d : TableDefinition) (inCheck : Bool) : Place where
  name := d.settleName inCheck
  barred what offset :=
    ⟨what ++ " prohibited in " ++ if inCheck then "CHECK constraints" else "generated columns",
      offset⟩
  call t operands clause :=
    let unsteady :=
      if !inCheck && admits unsteadyFunctions t.name operands.length then
        some ⟨"non-deterministic functions prohibited in generated columns", some t.offset⟩
      else none
    callFault? t operands clause <|> unsteady

/-- Settles what all names in checks mean, up to the first that something is wrong with. -/
def settledChecks (d : TableDefinition) : Settling (List Check) :=
  d.checks.mapM fun check => do
    let condition ← (d.place true).settle check.condition
    Settling.confirm
    return { check with condition }

/-- Settles what all names in what a column follows from mean. -/
def settledColumn (d : TableDefinition) (c : ColumnDefinition) : Settling ColumnDefinition := do
  let computation ← c.computation.mapM fun computation => do
    let expression ← (d.place false).settle computation.expression
    return { computation with expression }
  return { c with computation }

/-- Settles what all names in expressions mean. -/
def settled (d : TableDefinition) : Except Fault TableDefinition :=
  Settling.outcome do
    let checks ← Settling.attempt d.checks d.settledChecks
    let columns ← d.columns.mapM fun c => Settling.attempt c (d.settledColumn c)
    return { d with checks, columns }

end TableDefinition

/-! ## Types -/

/-- The text without a word at its end and without the spaces before that word. -/
def dropLastWord? (word : String) (s : List Char) : Option (List Char) :=
  let start := s.length - word.length
  if word.length ≤ s.length && Text.sameIgnoringCase (String.ofList (s.drop start)) word then
    some ((s.take start).reverse.dropWhile Token.isSpace).reverse
  else none

/-- A type as it is written, without the words that may introduce a computed column: these
are read as a part of the type first. -/
def withoutGenerated (s : List Char) : List Char :=
  if s.length < "generated always".length then s
  else
    match dropLastWord? "always" s with
    | none => s
    | some s => (dropLastWord? "generated" s).getD s

namespace Reader

/-- Takes the type of a column. -/
def columnType : Reader (List Char) := do
  return withoutGenerated (Token.stretch (← typeTokens))

/-! ## Constraints on columns -/

/-- Takes what is to happen in a conflict, if that is said. -/
def onConflict : Reader (Option Conflict) := do
  if ← wordIf "on" then
    word "conflict"
    if ← wordIf "ignore" then return some .ignore
    else if ← wordIf "replace" then return some .replace
    else do
      let _ ← take fun t => ["rollback", "abort", "fail"].any t.isWord
      return some .abort
  else return none

/-- Takes the order of a key; tells whether it is falling. -/
def order : Reader Bool := do
  if ← wordIf "desc" then return true
  else do let _ ← wordIf "asc"; return false

/-- The value that a name stands for: itself, or a truth value. -/
def valueOfName (t : Token) : Expression :=
  ((Expression.truthOf? t).map Expression.truth).getD (.ofText t.name)

/-- Takes the value that a column has by default. -/
def defaultValue : Reader Expression := do
  if ← sees (·.isSign "(") then return (← bracketed).1
  else if ← signIf "-" then do
    let t ← take isTerm
    return if t.kind = .number then .ofNumber true t else .apply .negate [.ofToken t]
  else if ← signIf "+" then return .ofToken (← take isTerm)
  else if ← sees isTerm then return .ofToken (← anything)
  else return valueOfName (← take fun t => t.isWord "indexed" || isPlainName t)

/-- Takes what is said of when a foreign key is checked, after its first word. -/
def deferral : Reader Unit := do
  if ← wordIf "initially" then do
    let _ ← take fun t => t.isWord "deferred" || t.isWord "immediate"

/-- Takes what is to happen to a child when its parent changes. -/
def action : Reader Unit := do
  if ← wordIf "set" then do let _ ← take fun t => t.isWord "null" || t.isWord "default"
  else if ← wordIf "no" then word "action"
  else do let _ ← take fun t => t.isWord "cascade" || t.isWord "restrict"

/-- Takes what is said further of a foreign key, at most so many clauses. -/
def referenceClauses : Nat → Reader Unit
  | 0 => return
  | limit + 1 => do
    if ← wordIf "match" then do
      let _ ← name
      referenceClauses limit
    else if ← wordIf "on" then do
      let _ ← take fun t => ["insert", "delete", "update"].any t.isWord
      action
      referenceClauses limit

/-- A column of a key: its name, perhaps with the name of a collation, and whether its order is
falling. -/
def keyedColumn : Reader (String × Option String × Bool) := do
  let column ← name
  let collation ← if ← wordIf "collate" then do pure (some (← take isTypeName).name) else pure none
  return (column, collation, ← order)

/-- A column of a foreign key: its name. A collation or an order is refused. -/
def listedColumn : Reader String := do
  let column ← take isName
  let collated ← wordIf "collate"
  if collated then do let _ ← take isTypeName
  let ordered ← takeIf fun t => t.isWord "asc" || t.isWord "desc"
  if collated || ordered then
    refuse ⟨"syntax error after column name \"" ++ String.ofList column.spelling ++ "\"", none⟩
  return column.name

/-- Takes the parent of a foreign key after the word that introduces it. -/
def reference : Reader (Token × Option (List String)) := do
  let parent ← take isName
  let columns ←
    if ← sees (·.isSign "(") then do pure (some (← bracketedList listedColumn)) else pure none
  referenceClauses (← ahead).length
  return (parent, columns)

/-- Takes the expression of a computed column, and the way it is computed. -/
def computation (d : TableDefinition) : Reader TableDefinition := do
  let (e, _) ← bracketed
  let way ← if ← sees isPlainName then do pure (some (← take isPlainName)) else pure none
  settle d (d.compute e (way.map fun t => String.ofList t.spelling))

/-- Takes a constraint on the last column, if one comes next. -/
def columnConstraint (d : TableDefinition) : Reader (Option TableDefinition) := do
  let here := d.columns.length - 1
  if ← wordIf "constraint" then do
    return some { d with constraintName := some (← name) }
  else if ← wordIf "default" then do
    let e ← defaultValue
    return some (← settle d (d.addPreset e))
  else if ← wordIf "null" then do
    let _ ← onConflict
    return some d
  else if ← wordIf "not" then do
    if ← wordIf "deferrable" then do
      deferral
      return some d
    else do
      word "null"
      let conflict := (← onConflict).getD .abort
      return some (d.changeLast ({ · with required := some conflict }))
  else if ← wordIf "primary" then do
    word "key"
    let falling ← order
    let conflict ← onConflict
    let rising ← wordIf "autoincrement"
    let part : KeyPart := { position := here, falling }
    return some (← settle d (d.addPrimaryKey [part] falling conflict rising))
  else if ← wordIf "unique" then do
    let conflict ← onConflict
    return some (← settle d (d.addUnique [{ position := here }] conflict))
  else if ← wordIf "check" then do
    let (e, text) ← bracketed
    return some (d.addCheck e text)
  else if ← wordIf "references" then do
    let (parent, columns) ← reference
    let own := ((d.columns[here]?).map (·.name)).getD ""
    if columns.any (·.length ≠ 1) then
      refuse ⟨"foreign key on " ++ own ++ " should reference only one column of table " ++
        String.ofList parent.spelling, some parent.offset⟩
      return some d
    else return some (← settle d (d.addForeignKey [own] parent.name columns))
  else if ← wordIf "deferrable" then do
    deferral
    return some d
  else if ← wordIf "collate" then do
    let collation ← take isTypeName
    return some (← settle d (d.collate collation.name))
  else if ← wordIf "generated" then do
    word "always"
    word "as"
    return some (← computation d)
  else if ← wordIf "as" then return some (← computation d)
  else return none

/-- Takes the constraints on the last column, at most so many. -/
def columnConstraints : Nat → TableDefinition → Reader TableDefinition
  | 0, d => return d
  | limit + 1, d => do
    match ← columnConstraint d with
    | some d => columnConstraints limit d
    | none => return d

/-- Takes a column. -/
def column (d : TableDefinition) : Reader TableDefinition := do
  let name ← name
  let type ← columnType
  let d ← settle d (d.addColumn name type)
  columnConstraints (← ahead).length d

/-! ## Constraints on tables -/

/-- Words that begin a constraint on a table. -/
def startsTableConstraint (t : Token) : Bool :=
  ["constraint", "primary", "unique", "check", "foreign"].any t.isWord

/-- The columns of a key by their names and those of their collations. -/
def keyParts (d : TableDefinition) (columns : List (String × Option String × Bool)) :
    Except Fault (List KeyPart) :=
  columns.mapM fun (name, collation, falling) => do
    let some position := d.position? name | throw ⟨"no such column: " ++ name, none⟩
    let collation ← collation.mapM fun name =>
      match collationOf? name with
      | some collation => .ok collation
      | none => .error (⟨"no such collation sequence: " ++ name, none⟩ : Fault)
    return { position, collation, falling }

/-- Takes a constraint on the table. -/
def tableConstraint (d : TableDefinition) : Reader TableDefinition := do
  if ← wordIf "constraint" then return { d with constraintName := some (← name) }
  else if ← wordIf "primary" then do
    word "key"
    sign "("
    let columns ← separated keyedColumn (← ahead).length
    let rising ← wordIf "autoincrement"
    sign ")"
    let conflict ← onConflict
    settle d do d.addPrimaryKey (← keyParts d columns) false conflict rising
  else if ← wordIf "unique" then do
    let columns ← bracketedList keyedColumn
    let conflict ← onConflict
    settle d do d.addUnique (← keyParts d columns) conflict
  else if ← wordIf "check" then do
    let (e, text) ← bracketed
    let _ ← onConflict
    return d.addCheck e text
  else do
    word "foreign"
    word "key"
    let names ← bracketedList listedColumn
    word "references"
    let (parent, columns) ← reference
    if ← wordIf "not" then
      word "deferrable"
      deferral
    else if ← wordIf "deferrable" then deferral
    settle d (d.addForeignKey names parent.name columns)

/-- Takes constraints on the table, at most so many; commas between them may be left out. -/
def tableConstraints : Nat → TableDefinition → Reader TableDefinition
  | 0, d => return d
  | limit + 1, d => do
    let d ← tableConstraint d
    if ← signIf "," then tableConstraints limit { d with constraintName := none }
    else if ← sees startsTableConstraint then tableConstraints limit d
    else return d

/-- Takes columns and then constraints on the table, at most so many columns. -/
def parts : Nat → TableDefinition → Reader TableDefinition
  | 0, d => return d
  | limit + 1, d => do
    let d ← column d
    if ← signIf "," then
      if ← sees startsTableConstraint then tableConstraints (← ahead).length d
      else parts limit d
    else return d

/-! ## Statements -/

/-- Takes an option of a table: that it has no keys, or that its types are strict. -/
def option (d : TableDefinition) : Reader TableDefinition := do
  let without ← wordIf "without"
  let option ← take isName
  if option.isWord (if without then "rowid" else "strict") then
    return { d with keyed := d.keyed && !without, strict := d.strict || !without }
  else
    refuse ⟨"unknown table option: " ++ String.ofList option.spelling, none⟩
    return d

/-- Takes further options, each after a comma, at most so many. -/
def moreOptions : Nat → TableDefinition → Reader TableDefinition
  | 0, d => return d
  | limit + 1, d => do
    if ← signIf "," then moreOptions limit (← option d) else return d

/-- Takes the beginning of a definition up to the name of the table. -/
def tableName : Reader Token := do
  word "create"
  let _ ← takeIf fun t => t.isWord "temp" || t.isWord "temporary"
  word "table"
  if ← wordIf "if" then do
    word "not"
    word "exists"
  let first ← take isName
  if ← signIf "." then take isName else return first

/-- Takes the brackets of a definition and what follows them, up to the end. -/
def tableBody (name : String) : Reader TableDefinition := do
  sign "("
  let d ← parts (← ahead).length { name }
  sign ")"
  let d ← if ← sees isName then option d else pure d
  let d ← moreOptions (← ahead).length d
  let d ← settle d (do (← d.optionsSettled).settled)
  if d.columns.all (·.computed) then refuse ⟨"must have at least one non-generated column", none⟩
  match ← ahead with
  | [] => confirm
  | t :: _ => if t.isSign ";" then confirm else stuck
  return d

end Reader

/-! ## Whole definitions -/

/-- Reads a definition. -/
def TableDefinition.ofText? (text : String) : Option TableDefinition :=
  let reading : Reader TableDefinition := do Reader.tableBody (← Reader.tableName).name
  (reading.run' { ahead := Token.ofText text }).toOption

end DottedQuery.Store
