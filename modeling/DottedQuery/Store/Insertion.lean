/-
# DottedQuery.Store.Insertion -- rows into tables

Rows are put into a table one after the other. Columns may hold the keys of the records,
follow from other columns, forbid nulls, or forbid that two records agree, and there may be
conditions on all records; a row that does not fit fails, is left out, or takes the place of
the records it clashes with, as the constraint says.
-/
import DottedQuery.Store.Definition
import DottedQuery.Store.Relation

namespace DottedQuery.Store

/-! ## Records and their keys -/

/-- The records of a table, and the greatest key that was given to any so far. -/
structure Stock where
  records : List Record := []
  greatest : Int := 0

/-- Why a row is not put in. -/
inductive Refusal where
  | fails (fault : Fault)
  | leavesOut

/-- What comes of a clash with a constraint, where taking the place of others is not ruled
out. -/
def Conflict.resolve (conflict : Option Conflict) (message : String) : Except Refusal Unit :=
  match conflict with
  | some .replace => .ok ()
  | some .ignore => .error .leavesOut
  | _ => .error (.fails ⟨message, none⟩)

namespace Stock

/-- The least positive key that no record has. -/
def freeKey (s : Stock) : Int64 :=
  let isFree (n : Nat) : Bool := !s.records.any (·.key == Int64.ofNat (n + 1))
  Int64.ofNat (((List.range (s.records.length + 1)).find? isFree).getD 0 + 1)

/-- The key of a record that comes without one: one more than the key of the last record. A
key that only rises is greater than all that were given. Where the last key is taken, another
is found unless keys only rise. -/
def nextKey? (s : Stock) (rising : Bool) : Option Int64 :=
  let next := (s.records.getLast?.map fun last => last.key.toInt + 1).getD 1
  let next := if rising then max next (s.greatest + 1) else next
  if next ≤ Int64.maxValue.toInt then some (Int64.ofInt next)
  else if rising then none
  else some s.freeKey

/-- Puts a record in its place among the others. -/
def place (s : Stock) (record : Record) : Stock where
  records :=
    s.records.filter (·.key < record.key) ++ record :: s.records.filter (record.key < ·.key)
  greatest := max s.greatest record.key.toInt

end Stock

namespace TableDefinition

/-- The full name of columns. -/
def fullNames (d : TableDefinition) (positions : List Nat) : String :=
  ", ".intercalate (positions.map fun i =>
    d.name ++ "." ++ ((d.columns[i]?).map (·.name)).getD "")

/-- The cells of a row under the columns they belong to. Computed columns are given none. -/
def spread : List ColumnDefinition → Row → Row
  | [], _ => []
  | c :: columns, cells =>
    if c.computed then .null :: spread columns cells
    else cells.headD .null :: spread columns cells.tail

/-- Checks that there is a cell for each column that is not computed. -/
def checkWidth (d : TableDefinition) (row : Row) : Except Refusal Unit :=
  let width := d.columns.countP (!·.computed)
  if row.length = width then .ok ()
  else
    .error (.fails ⟨"table " ++ d.name ++ " has " ++ toString width ++ " columns but " ++
      toString row.length ++ " values were supplied", none⟩)

/-- Whether a column holds the keys of the records. -/
def holdsKeys (d : TableDefinition) (position : Nat) : Bool :=
  d.key.any (·.position = position)

/-- The cells of a row with what takes the place of nulls. -/
def replaceNulls (d : TableDefinition) (cells : Row) : Row :=
  d.columns.zipWith (fun c cell =>
    match c.required, c.preset, cell with
    | some .replace, .cell preset, .null => preset
    | _, _, cell => cell) cells

/-- Checks that no null stands where none is admitted. Computed cells come last, and with them
those that may have been replaced. -/
def checkRequired (d : TableDefinition) (cells : Row) : Except Refusal Unit :=
  let entries := (d.columns.zip cells).zipIdx
  let (late, early) := entries.partition fun ((c, _), _) =>
    c.computed || (c.required = some .replace && c.hasPreset)
  (early ++ late).forM fun ((c, cell), i) =>
    match c.required, cell with
    | some conflict, .null =>
      if d.holdsKeys i then .ok ()
      else
        let conflict := if conflict = .ignore then .ignore else .abort
        Conflict.resolve (some conflict) ("NOT NULL constraint failed: " ++ d.fullNames [i])
    | _, _ => .ok ()

/-! ## Expressions on rows -/

/-- What a column gives in expressions on a row. The last cell of the row is the key. -/
def operandAt (d : TableDefinition) (row : Row) (i : Nat) : Operand :=
  let cell := row.getD i .null
  match d.columns[i]? with
  | some c => { cell, affinity := some c.affinity, collation := some c.collation }
  | none => { cell, affinity := some .integer }

/-- The columns that occur in what a column follows from. -/
def sources (d : TableDefinition) (i : Nat) : List Nat :=
  ((d.columns[i]?.bind (·.computation)).map (·.expression.mentioned)).getD []

/-- The cell of a column as it follows from a row. What is not worked out is null. -/
def followingCell (d : TableDefinition) (row : Row) (i : Nat) : Worked Cell :=
  match d.columns[i]? with
  | some c =>
    match c.computation with
    | some computation =>
      let e := computation.expression
      if e.understood then (e.value (d.operandAt row)).map c.affinity.stored else .ok .null
    | none => .ok (row.getD i .null)
  | none => .ok .null

/-- A row in which one more column is worked out, and the columns that wait for it no longer.
A column waits as long as it follows from one that does. -/
def workOut (d : TableDefinition) (state : Row × List Nat) (i : Nat) :
    Worked (Row × List Nat) := do
  let (row, waiting) := state
  if (d.sources i).any waiting.contains then return state
  return (row.set i (← d.followingCell row i), waiting.filter (· ≠ i))

/-- A row after so many rounds, in each of which the columns that wait are worked out as far as
they do not follow from others that wait. -/
def workedOut (d : TableDefinition) : Nat → Row → List Nat → Worked Row
  | 0, row, _ => .ok row
  | rounds + 1, row, waiting => do
    let (row, waiting) ← waiting.foldlM d.workOut (row, waiting)
    workedOut d rounds row waiting

/-- A row with its key, in which the computed columns are worked out that satisfy a test. As no
column follows from itself, there are rounds enough for every column. -/
def completed (d : TableDefinition) (which : Computation → Bool) (row : Row) : Worked Row :=
  let waiting := (List.range d.columns.length).filter fun i =>
    d.columns[i]?.any fun c => c.computation.any which
  d.workedOut waiting.length row waiting

/-- A row with its key as it is stored. -/
def complete (d : TableDefinition) (key : Int64) (cells : Row) : Worked Row :=
  let stored := d.columns.zipWith (fun c cell => c.affinity.stored cell) cells
  d.completed (fun _ => true) (stored ++ [.int key])

/-- The refusal of a row for which something cannot be worked out at some kind of place. -/
def workable {α : Type} (place : String) (found : Worked α) : Except Refusal α :=
  found.mapError fun fault => .fails ⟨fault.message place, none⟩

/-- The refusal of a column that follows from itself. -/
def loopFault (d : TableDefinition) (i : Nat) : Fault :=
  ⟨"generated column loop on \"" ++ ((d.columns[i]?).map (·.name)).getD "" ++ "\"", none⟩

/-- The columns from which a column follows while they follow from others in turn, as far as
nothing is stored: each where it is met again, on ways of limited length. -/
def loopsFrom (d : TableDefinition) : Nat → List Nat → Nat → List Nat
  | 0, _, _ => []
  | limit + 1, way, i =>
    if way.contains i then [i]
    else if d.columns[i]?.any (fun c => c.computation.any (!·.stored)) then
      (d.sources i).flatMap (loopsFrom d limit (i :: way))
    else []

/-- What is wrong with what a column follows from, if that has no value. -/
def flaw? (c : ColumnDefinition) (which : Computation → Bool) : Option Fault :=
  match c.computation with
  | some computation =>
    if which computation then computation.expression.flaw?.map fun message => ⟨message, none⟩
    else none
  | none => none

/-- Checks that all columns can be read. The last fault is told. -/
def checkReading (d : TableDefinition) : Except Fault Unit :=
  let loops (i : Nat) : List Fault := (d.loopsFrom (d.columns.length + 1) [] i).map d.loopFault
  let faults := d.columns.zipIdx.flatMap fun (c, i) =>
    loops i ++ (flaw? c fun computation => !computation.stored).toList
  match faults.getLast? with
  | none => .ok ()
  | some fault => .error fault

/-- The columns among some that follow from each other, after so many rounds in which those
that do not are left out. -/
def looped (d : TableDefinition) : Nat → List Nat → List Nat
  | 0, waiting => waiting
  | rounds + 1, waiting =>
    looped d rounds (waiting.filter fun i => (d.sources i).any waiting.contains)

/-- Checks that all columns can be written and all conditions be checked. The last fault is
told. -/
def checkWriting (d : TableDefinition) : Except Refusal Unit :=
  let computed := (List.range d.columns.length).filter fun i => d.columns[i]?.any (·.computed)
  let loops := (d.looped computed.length computed).map d.loopFault
  let columns := d.columns.filterMap fun c => flaw? c fun _ => true
  let checks := d.checks.filterMap fun check =>
    check.condition.flaw?.map fun message => (⟨message, none⟩ : Fault)
  match (columns ++ loops ++ checks).getLast? with
  | none => .ok ()
  | some fault => .error (.fails fault)

/-- The name of the class of a cell. -/
def className : Cell → String
  | .null => "NULL"
  | .int _ => "INT"
  | .real _ => "REAL"
  | .text _ => "TEXT"
  | .blob _ => "BLOB"

/-- Checks that the cells of a strict table are of the types of their columns. -/
def checkTypes (d : TableDefinition) (cells : Row) : Except Refusal Unit :=
  (d.columns.zip cells).forM fun (c, cell) =>
    let type := if c.computation.all (·.stored) then c.strictType else none
    if d.strict && !type.all (·.admits cell) then
      .error (.fails ⟨"cannot store " ++ className cell ++ " value in " ++
        Text.asciiUpper c.declared ++ " column " ++ d.name ++ "." ++ c.name, none⟩)
    else .ok ()

/-- Checks that no condition is false of a row with its key. -/
def checkConditions (d : TableDefinition) (row : Row) : Except Refusal Unit :=
  d.checks.forM fun check => do
    if check.condition.understood then
      if !(← workable "a CHECK constraint" (check.condition.holds (d.operandAt row) true)) then
        .error (.fails ⟨"CHECK constraint failed: " ++ check.name, none⟩)

/-! ## Keys and room -/

/-- The key of a new record that comes without one. -/
def freshKey (s : Stock) (rising : Bool) : Except Refusal (Int64 × Bool) :=
  match s.nextKey? rising with
  | some key => .ok (key, false)
  | none => .error (.fails ⟨"database or disk is full", none⟩)

/-- The key of a new record, and whether it was given with the row. -/
def keyFor (d : TableDefinition) (s : Stock) (cells : Row) : Except Refusal (Int64 × Bool) :=
  match d.key with
  | none => freshKey s false
  | some column =>
    match cells.getD column.position .null with
    | .null => freshKey s column.rising
    | cell =>
      match Affinity.integer.stored cell with
      | .int key => .ok (key, true)
      | _ => .error (.fails ⟨"datatype mismatch", none⟩)

/-- Whether two records agree on columns. -/
def agreeOn (d : TableDefinition) (parts : List KeyPart) (a b : Row) : Bool :=
  parts.all fun part =>
    let collation := d.collationOf part
    (a.getD part.position .null).agrees { collation } (b.getD part.position .null)

/-- The records among which a new one with this key can stand. -/
def roomForKey (d : TableDefinition) (key : Int64) (records : List Record) :
    Except Refusal (List Record) := do
  if records.any (·.key == key) then
    if let some column := d.key then
      Conflict.resolve column.conflict
        ("UNIQUE constraint failed: " ++ d.fullNames [column.position])
  return records.filter (·.key != key)

/-- The records among which a new one with these cells can stand under a constraint. -/
def roomUnder (d : TableDefinition) (cells : Row) (records : List Record) (u : UniqueColumns) :
    Except Refusal (List Record) := do
  let clashes (r : Record) : Bool := d.agreeOn u.parts cells r.cells
  if records.any clashes then
    Conflict.resolve u.conflict ("UNIQUE constraint failed: " ++ d.fullNames u.positions)
  return records.filter (!clashes ·)

/-- The records among which a new one can stand. The constraints declared last come first, but
those under which it takes the place of others come at the end. -/
def room (d : TableDefinition) (key : Int64) (given : Bool) (cells : Row)
    (records : List Record) : Except Refusal (List Record) := do
  let keyReplaces := d.key.any (·.conflict = some .replace)
  let (replacing, others) := d.uniques.reverse.partition (·.conflict = some .replace)
  let records ← if given && !keyReplaces then d.roomForKey key records else .ok records
  let records ← (others ++ replacing).foldlM (d.roomUnder cells) records
  if given && keyReplaces then d.roomForKey key records else .ok records

/-- Puts a row in. -/
def put (d : TableDefinition) (s : Stock) (row : Row) : Except Refusal Stock := do
  d.checkWidth row
  d.checkWriting
  let cells := spread d.columns row
  let (key, given) ← d.keyFor s cells
  let cells :=
    match d.key with
    | some column => cells.set column.position (.int key)
    | none => cells
  let row ← workable "a generated column" do
    let _ ← d.complete key cells
    d.complete key (d.replaceNulls cells)
  let cells := row.take d.columns.length
  d.checkRequired cells
  d.checkTypes cells
  d.checkConditions row
  let records ← d.room key given cells s.records
  return { s with records }.place ⟨key, cells⟩

/-- Puts rows in, one after the other. -/
def fill (d : TableDefinition) (rows : List Row) : Except Fault Stock :=
  rows.foldlM (fun s row =>
    match d.put s row with
    | .ok s => .ok s
    | .error .leavesOut => .ok s
    | .error (.fails fault) => .error fault) {}

/-- The orders that the constraints need beside that of the keys, the last one first. Those
whose conflicts are settled by replacement come at the end. -/
def indexes (d : TableDefinition) : List Index :=
  let (replacing, others) := d.uniques.reverse.partition (·.conflict = some .replace)
  (others ++ replacing).map fun u =>
    let isMain : Bool := !d.keyed && u.parts = d.primary
    { columns := u.parts.map d.indexColumn, unique := true
      purpose := if isMain then .records else .constraint }

/-- The table with these records. -/
def table (d : TableDefinition) (records : List Record) : Table :=
  let order := if d.keyed then [] else d.primary.map d.indexColumn
  { name := d.name
    columns := d.columns.map (·.column)
    foreignKeys := d.foreignKeys
    records :=
      if d.keyed then records else records.mergeSort fun a b => inOrder order a.cells b.cells
    keyed := d.keyed
    keyColumn := d.key.map (·.position)
    order
    indexes := d.indexes }

end TableDefinition

end DottedQuery.Store
