/-
# DottedQuery.Store.Query.Rows -- the rows that a query gives

The sources are gone through one after the other, and the rows of each in their order. Names
are looked up among the columns of all sources, then among the names that the query gives. A
function of many rows makes a query give one row for each group of rows, or a single one;
columns that stand beside such a function are those of the first row of the group, or of the
row with the greatest or least value where that is asked for.
-/
import DottedQuery.Store.Evaluation
import DottedQuery.Store.Relation
import DottedQuery.Store.Settling

namespace DottedQuery.Store

/-! ## Functions of many rows -/

/-- A sum and what rounding has taken from it so far. -/
structure RunningSum where
  sum : Float := 0.0
  lost : Float := 0.0

/-- Adds a number, and keeps what is lost of the smaller one. -/
def RunningSum.add (s : RunningSum) (x : Float) : RunningSum :=
  let sum := s.sum + x
  let lost := if s.sum.abs > x.abs then (s.sum - sum) + x else (x - sum) + s.sum
  ⟨sum, s.lost + lost⟩

/-- The sum with what was lost. -/
def RunningSum.total (s : RunningSum) : Float :=
  if s.lost.isNaN then s.sum else s.sum + s.lost

/-- The sum of cells as doubles. -/
def realSum (cells : List Cell) : Float :=
  (cells.foldl (fun s cell => s.add cell.toReal) ({} : RunningSum)).total

/-- The sum of cells: an integer if all of them are integers. -/
def sumOf (cells : List Cell) : Worked Cell :=
  let whole? : Cell → Option Int
    | .int n => some n.toInt
    | .text bytes =>
      match Cell.ofNumberText? bytes with
      | some (.int n) => some n.toInt
      | _ => none
    | _ => none
  match cells.mapM whole? with
  | some numbers =>
    match Cell.ofInt? (numbers.foldl (· + ·) 0) with
    | some cell => .ok cell
    | none => complain "integer overflow"
  | none => .ok (.real (realSum cells))

/-- The texts of operands with what stands between them, a comma if that is not said. -/
def joinedTexts : List (List Operand) → List UInt8
  | [] => []
  | first :: rest =>
    let text (operands : List Operand) : List UInt8 :=
      match operands with
      | first :: _ => first.cell.textBytes
      | [] => []
    let between (operands : List Operand) : List UInt8 :=
      match operands with
      | [_, between] => between.cell.textBytes
      | _ => [44]
    text first ++ rest.flatMap fun operands => between operands ++ text operands

/-- The value of a function of many rows by its operands in each. Nulls do not count. -/
def aggregated (name : String) (rows : List (List Operand)) : Worked Cell :=
  let isNull (a : Operand) : Bool := a.cell matches .null
  let known := rows.filter fun operands => !operands.head?.any isNull
  let operands := known.filterMap (·.head?)
  let cells := operands.map (·.cell)
  let unlessNone (value : Worked Cell) : Worked Cell := if cells.isEmpty then .ok .null else value
  match Text.asciiLower name with
  | "count" => .ok (.ofCount known.length)
  | "sum" => unlessNone (sumOf cells)
  | "total" => .ok (.real (realSum cells))
  | "avg" => unlessNone (.ok (.real (realSum cells / Float.ofNat cells.length)))
  | "min" => unlessNone (.ok (Operand.extreme false operands))
  | "max" => unlessNone (.ok (Operand.extreme true operands))
  | "group_concat" | "string_agg" => unlessNone (.ok (.text (joinedTexts known)))
  | _ => complain ("not worked out: " ++ name)

namespace Query

/-! ## Names -/

/-- A relation in a query: the place at which its cells begin and the name it goes by. -/
structure Placed where
  start : Nat
  name : String
  relation : Relation

/-- Relations with the places at which their cells begin. -/
def placedFrom (start : Nat) : List (String × Relation) → List Placed
  | [] => []
  | (name, relation) :: rest =>
    ⟨start, name, relation⟩ :: placedFrom (start + relation.width) rest

/-- How the cells of all relations compare. -/
def manners (scope : List Placed) : List Manner :=
  scope.flatMap fun p => (List.range p.relation.width).map p.relation.mannerAt

/-- A column that a query gives. -/
structure Given where
  name : String
  expression : Expression

/-- What a name stands for that is not the name of a column. -/
def settleOther (given : List Given) (token : Token) : Except Fault Expression :=
  match given.find? fun column => Text.sameIgnoringCase column.name token.name with
  | some column => .ok column.expression
  | none =>
    match Expression.truthOf? token with
    | some b => .ok (.truth b)
    | none =>
      if token.spelling.head? = some '"' then .ok (.ofText token.name)
      else .error ⟨"no such column: " ++ token.name, some token.offset⟩

/-- Settles what a name means. -/
def settleName (scope : List Placed) (given : List Given) (qualifiers : List Token) (token : Token) :
    Except Fault Expression :=
  let fits (p : Placed) : Bool :=
    qualifiers.getLast?.all fun table => Text.sameIgnoringCase table.name p.name
  let fitting := scope.filter fits
  let places (index? : Relation → Option Nat) : List Nat :=
    fitting.filterMap fun p => (index? p.relation).map (p.start + ·)
  let key := if fitting.length = 1 then places (·.columnIndex? token.name) else []
  match places (·.ownIndex? token.name), key with
  | [place], _ | [], [place] => .ok (.column place)
  | [], _ =>
    if qualifiers.isEmpty then settleOther given token
    else .error ⟨"no such column: " ++ token.name, some token.offset⟩
  | _, _ => .error ⟨"ambiguous column name: " ++ token.name, some token.offset⟩

/-- Whether an expression is a call of a function of many rows. -/
def isAggregate : Expression → Bool
  | .apply (.call t) operands | .apply (.callWith t .distinct) operands =>
    admits aggregateFunctions t.name operands.length
  | _ => false

/-- What is wrong with a call in a query, if it is not worked out. -/
def callFault? (t : Token) (operands : List Expression) (clause : Option CallClause) :
    Option Fault :=
  let isWorked : Bool :=
    match clause with
    | none => admits (workedFunctions ++ aggregateFunctions) t.name operands.length
    | some .distinct =>
      operands.length = 1 && admits aggregateFunctions t.name operands.length
    | some _ => false
  if isWorked then none else some ⟨"not worked out: " ++ t.name, some t.offset⟩

/-- An expression in a query. -/
def place (scope : List Placed) (given : List Given) : Place where
  name qualifiers token := liftM (settleName scope given qualifiers token)
  barred what offset := ⟨what ++ " are not worked out", offset⟩
  call := callFault?

/-- Settles an expression. What has no value is refused. -/
def settle (scope : List Placed) (given : List Given) (e : Expression) : Except Fault Expression := do
  let e ← ((place scope given).settle e).outcome
  match e.flaw? with
  | some message => .error ⟨message, none⟩
  | none => .ok e

/-! ## Columns -/

/-- How the values of an expression compare. -/
def mannerOf (manners : List Manner) : Expression → Manner
  | .column i => manners.getD i {}
  | .apply (.cast affinity) [e] => { mannerOf manners e with affinity }
  | .apply (.collate collation) [e] => { mannerOf manners e with collation }
  | .apply .keep [e] => { mannerOf manners e with affinity := .any }
  | _ => {}

/-- The columns of a relation in a query. -/
def columnsOf (p : Placed) : List Given :=
  p.relation.shown.mapIdx fun i c => ⟨c.name, .column (p.start + i)⟩

/-- The name of a value that is given none: the column that it is, or its text. -/
def ownName (scope : List Placed) (e : Expression) (text : String) : String :=
  let name (i : Nat) (p : Placed) : Option String :=
    if p.start ≤ i && i < p.start + p.relation.width then
      some ((p.relation.columns[i - p.start]?.map (·.name)).getD "rowid")
    else none
  match e with
  | .column i => (scope.findSome? (name i)).getD text
  | _ => text

/-- The columns that a choice gives. -/
def chosen (scope : List Placed) : Choice → Except Fault (List Given)
  | .all none =>
    if scope.isEmpty then .error ⟨"no tables specified", none⟩ else .ok (scope.flatMap columnsOf)
  | .all (some source) =>
    match scope.filter fun p => Text.sameIgnoringCase p.name source with
    | [] => .error ⟨"no such table: " ++ source, none⟩
    | found => .ok (found.flatMap columnsOf)
  | .value e name text => do
    let e ← settle scope [] e
    return [⟨name.getD (ownName scope e text), e⟩]

/-- A name without a number that was added to it. -/
def withoutNumber (name : List Char) : List Char :=
  match name.reverse.dropWhile Char.isDigit with
  | ':' :: rest => if rest.isEmpty then name else rest.reverse
  | _ => name

/-- A name that is not taken: a number is added until none is, at most so many times. -/
def freshName (taken : List String) (name : String) : Nat → Nat → String
  | 0, _ => name
  | limit + 1, count =>
    if taken.any (Text.sameIgnoringCase name) then
      let start := String.ofList (withoutNumber name.toList)
      freshName taken (start ++ ":" ++ toString (count + 1)) limit (count + 1)
    else name

/-- The names of columns, all different. A name that is a truth value is not one. -/
def distinctNames : List String → List String → List String
  | _, [] => []
  | taken, name :: rest =>
    let isTruth := ["true", "false"].any (Text.sameIgnoringCase name)
    let name := if isTruth then "column" ++ toString (taken.length + 1) else name
    let name := freshName taken name (taken.length + 1) 0
    name :: distinctNames (taken ++ [name]) rest

/-! ## Rows of sources -/

/-- What is worked out in a row of all sources. -/
def operandIn (manners : List Manner) (row : Row) (i : Nat) : Operand :=
  let m := manners.getD i {}
  { cell := row.getD i .null, affinity := some m.affinity, collation := some m.collation }

/-- Whether a condition holds in a row. No condition holds always. -/
def admitsRow (manners : List Manner) (condition : Option Expression) (row : Row) : Worked Bool :=
  match condition with
  | some e => e.holds (operandIn manners row) false
  | none => .ok true

/-- Rows of the sources so far, each with all rows of one more source that fit it. -/
def joinRows (manners : List Manner) (rows : List Row) (relation : Relation) (isOptional : Bool)
    (condition : Option Expression) : Worked (List Row) := do
  let parts ← rows.mapM fun row => do
    let all := relation.rows.map fun other => row ++ relation.fullRow other
    let fitting ← all.filterM (admitsRow manners condition)
    return if isOptional && fitting.isEmpty then [row ++ relation.fullRow []] else fitting
  return parts.flatten

/-! ## Groups -/

/-- The operand that an expression gives in a row. -/
def operandOf (manners : List Manner) (row : Row) (e : Expression) : Worked Operand :=
  (e.deferred (operandIn manners row)).operand ()

/-- The rank of a value; null comes before all others. -/
def rankOf (a : Operand) : List Int :=
  (a.cell.rank { collation := a.collation.getD .binary }).getD []

/-- The rows of a group, and the one whose columns stand for those of the group. -/
structure Group where
  rows : List Row
  first : Row

/-- The extreme of a group that is asked for: whether it is the greatest, and of what. -/
def extreme? (e : Expression) : Option (Bool × Expression) :=
  e.parts.findSome? fun
    | .apply (.call t) [of] | .apply (.callWith t .distinct) [of] =>
      if t.isWord "max" then some (true, of) else if t.isWord "min" then some (false, of) else none
    | _ => none

/-- The row of an extreme. -/
def extremeRow (manners : List Manner) (greatest : Bool) (of : Expression) (rows : List Row) :
    Worked (Option Row) := do
  let ranked ← rows.mapM fun row => do return (row, rankOf (← operandOf manners row of))
  let better (best : Row × List Int) (entry : Row × List Int) : Row × List Int :=
    let wins : Bool := if greatest then best.2 < entry.2 else entry.2 < best.2
    if wins then entry else best
  match ranked.filter (!·.2.isEmpty) with
  | [] => return rows.head?
  | first :: rest => return some (rest.foldl better first).1

/-- A group of rows, in which an extreme may be asked for. -/
def groupOf (manners : List Manner) (extreme : Option (Bool × Expression)) (rows : List Row) :
    Worked Group := do
  let first ←
    match extreme with
    | some (greatest, of) => extremeRow manners greatest of rows
    | none => pure rows.head?
  return ⟨rows, first.getD []⟩

/-- Rows with their ranks put together where these are the same. -/
def adjacent : List (List (List Int) × Row) → List (List (List Int) × List Row)
  | [] => []
  | (rank, row) :: rest =>
    match adjacent rest with
    | (next, rows) :: groups =>
      if rank = next then (rank, row :: rows) :: groups else (rank, [row]) :: (next, rows) :: groups
    | [] => [(rank, [row])]

/-- Rows in groups, in the order of what they are grouped by. -/
def grouped (manners : List Manner) (by' : List Expression) (rows : List Row) :
    Worked (List (List Row)) := do
  let ranked ← rows.mapM fun row => do
    return ((← by'.mapM fun e => do return rankOf (← operandOf manners row e)), row)
  return (adjacent (ranked.mergeSort fun a b => !decide (b.1 < a.1))).map (·.2)

/-- The value of an expression in a group. -/
def operandInGroup (manners : List Manner) (g : Group) (e : Expression) : Except Fault Operand := do
  let worked {α : Type} (value : Worked α) : Except Fault α :=
    value.mapError fun fault => ⟨fault.message "a query", none⟩
  let ranks (operands : List Operand) : List (List Int) := operands.map rankOf
  let total (t : Token) (operands : List Expression) (distinct : Bool) :
      Except Fault Expression := do
    let values ← worked (g.rows.mapM fun row => operands.mapM (operandOf manners row))
    let values := if distinct then values.eraseDupsBy (ranks · = ranks ·) else values
    return .cell (← worked (aggregated t.name values))
  let summed (e : Expression) : Except Fault Expression :=
    match e with
    | .apply (.callWith t .distinct) operands => total t operands true
    | .apply (.call t) operands => if isAggregate e then total t operands false else .ok e
    | e => .ok e
  worked (operandOf manners g.first (← e.rebuilt summed))

/-! ## Order and limits -/

/-- Whether a row comes before another by the ranks of the terms, or may. -/
def inOrder : List SortTerm → List (List Int) → List (List Int) → Bool
  | t :: terms, a :: as, b :: bs =>
    if a = b then inOrder terms as bs
    else
      let nullsFirst := t.nullsFirst.getD !t.falling
      if a.isEmpty then nullsFirst
      else if b.isEmpty then !nullsFirst
      else if t.falling then b < a
      else a < b
  | _, _, _ => true

/-- The term itself, or the column whose number it is. -/
def numbered (given : List Given) (e : Expression) : Except Fault Expression :=
  match e with
  | .cell (.int n) =>
    match given[n.toNatClampNeg - 1]? with
    | some column => if 1 ≤ n then .ok column.expression else .error ⟨"term out of range", none⟩
    | none => .error ⟨"term out of range", none⟩
  | e => .ok e

/-- The integer that a limit gives, if there is one. -/
def bound? (e : Option Expression) : Except Fault (Option Int) :=
  match e with
  | none => .ok none
  | some e =>
    match settle [] [] e with
    | .error fault => .error fault
    | .ok e =>
      match e.constant.toOption.map Affinity.integer.stored with
      | some (.int n) => .ok (some n.toInt)
      | _ => .error ⟨"datatype mismatch", none⟩

/-! ## Whole queries -/

/-- The rows of all sources, one source after the other. -/
def joined (manners : List Manner) (scope : List Placed) (given : List Given) :
    List Row → List (QuerySource × Relation) → Except Fault (List Row)
  | rows, [] => .ok rows
  | rows, (source, relation) :: rest => do
    let condition ← source.condition.mapM (settle scope given)
    let rows ← (joinRows manners rows relation source.isOptional condition).mapError fun fault =>
      ⟨fault.message "a query", none⟩
    joined manners scope given rows rest

/-- What a query gives on relations in the place of its sources. -/
def relation (q : Query) (relations : List Relation) : Except Fault Relation := do
  let sources := q.sources.zip relations
  let scope := placedFrom 0 (sources.map fun (source, relation) => (source.name, relation))
  let manners := manners scope
  let columns := (← q.choices.mapM (chosen scope)).flatten
  let condition ← q.condition.mapM (settle scope columns)
  let rows ← joined manners scope columns [[]] sources
  let rows ← (rows.filterM (admitsRow manners condition)).mapError fun fault =>
    ⟨fault.message "a query", none⟩
  let groups ← q.groups.mapM fun e => do settle scope columns (← numbered columns e)
  let groupCondition ← q.groupCondition.mapM (settle scope columns)
  let order ← q.order.mapM fun term => do
    let expression ←
      match term.expression with
      | .name [] token =>
        match columns.find? fun column => Text.sameIgnoringCase column.name token.name with
        | some column => pure column.expression
        | none => settle scope columns term.expression
      | e => settle scope columns (← numbered columns e)
    return { term with expression }
  let all := columns.map (·.expression) ++ groupCondition.toList ++ order.map (·.expression)
  let isGrouped := !groups.isEmpty || all.any fun e => e.parts.any isAggregate
  let parts ← (if isGrouped then
      if groups.isEmpty then .ok [rows] else grouped manners groups rows
    else .ok (rows.map ([·]))).mapError fun fault => ⟨fault.message "a query", none⟩
  let groups ← (parts.mapM (groupOf manners (all.findSome? extreme?))).mapError fun fault =>
    ⟨fault.message "a query", none⟩
  let groups ← groups.filterM fun g =>
    match groupCondition with
    | some e => do return (← operandInGroup manners g e).cell.truth = some true
    | none => .ok true
  let found ← groups.mapM fun g => do
    let row ← columns.mapM fun column => do
      return (← operandInGroup manners g column.expression).cell
    let ranks ← order.mapM fun term => do
      return rankOf (← operandInGroup manners g term.expression)
    return (row, ranks)
  let key (row : Row) : List (List Int) := row.map fun cell => rankOf { cell }
  let found := if q.distinct then found.eraseDupsBy fun a b => key a.1 = key b.1 else found
  let found := if order.isEmpty then found else found.mergeSort fun a b => inOrder order a.2 b.2
  let skipped := ((← bound? q.skipped).getD 0).toNat
  let rows := (found.drop skipped).map (·.1)
  let rows :=
    match ← bound? q.limit with
    | some n => if n < 0 then rows else rows.take n.toNat
    | none => rows
  let names := distinctNames [] (columns.map (·.name))
  let column (name : String) (given : Given) : Column :=
    let m := mannerOf manners given.expression
    { name, declared := "", affinity := m.affinity, collation := m.collation }
  return { columns := names.zipWith column columns, keyed := false, rows }

end Query

end DottedQuery.Store
