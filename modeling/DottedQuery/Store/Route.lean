/-
# DottedQuery.Store.Route -- the order in which tables are gone through

A statement says what rows it wants, not in which order. The tables can be gone through one
inside the other in any order that the joins allow, and the rows of each by their keys or by
another order that is kept of them. Every way of going through a table is given a cost and a
number of rows by rules of thumb, and the cheapest way through all tables is taken. Costs and
numbers are logarithms: ten times the logarithm to base 2.
-/
import DottedQuery.Store.Relation

namespace DottedQuery.Store

/-! ## Logarithms -/

namespace Estimate

/-- The logarithm of a sum. -/
def sum (a b : Int) : Int :=
  let (a, b) := if a < b then (b, a) else (a, b)
  let gap := (a - b).toNat
  let more : List Int :=
    [10, 10, 9, 9, 8, 8, 7, 7, 7, 6, 6, 6, 5, 5, 5, 4, 4, 4, 4, 3, 3, 3, 3, 3, 3, 2, 2, 2, 2, 2, 2,
     2]
  if 49 < gap then a else if 31 < gap then a + 1 else a + more.getD gap 0

/-- The logarithm of a number that is at least 8. -/
def ofLarge (n : Nat) : Int :=
  let shift := n.log2 - 3
  let fraction : List Int := [0, 2, 3, 5, 6, 7, 8, 9]
  30 + 10 * shift + fraction.getD (n / Nat.pow 2 shift - 8) 0

/-- The logarithm of a number. -/
def ofNat (n : Nat) : Int := if n < 2 then 0 else ofLarge (8 * n) - 30

/-- How many rows a table is thought to have. -/
def tableRows : Int := 200

/-- What it costs to find a row of a table by a key. -/
def seek : Int := 43

end Estimate

/-! ## Widths -/

namespace Column

/-- The types whose names alone tell a width. -/
def plainTypes : List String := ["any", "int", "integer", "real"]

/-- How wide the cells of a column are thought to be: as wide as the first number in the name of
a type of texts says. -/
def width (c : Column) : Nat :=
  let declared := c.declared.toList
  let digits := (declared.dropWhile (!·.isDigit)).takeWhile Char.isDigit
  let ofSize (n : Nat) : Nat := min (n / 4 + 1) 255
  let isPlain : Bool := plainTypes.any (Text.sameIgnoringCase c.declared)
  if declared.isEmpty || isPlain || (Affinity.ofDeclared c.declared).isNumeric then 1
  else if mentions c.declared ["CHAR", "CLOB", "BLOB("] then ofSize (Decimal.natOfDigits digits)
  else ofSize 16

end Column

namespace Relation

/-- How wide a row is thought to be. -/
def rowWidth (r : Relation) : Int :=
  let width := r.columns.foldl (fun sum c => sum + c.width) 0
  Estimate.ofNat (4 * if r.keyColumn.isNone then width + 1 else width)

/-- How wide an entry with cells of these columns is thought to be. -/
def entryWidth (r : Relation) (positions : List Nat) : Int :=
  let width (i : Nat) : Nat := (r.columns[i]?.map Column.width).getD 1
  Estimate.ofNat (4 * positions.foldl (fun sum i => sum + width i) 0)

/-- The position of a column, or that of the key if the column holds the keys. -/
def placeOf (r : Relation) (i : Nat) : Nat := if r.keyColumn = some i then r.columns.length else i

end Relation

/-! ## Terms -/

/-- What a term of a statement asks of a column. -/
inductive Asked where
  | equal
  | null
  | notNull
  | less
  | greater
  /-- What no order of rows helps with. -/
  | other
  deriving DecidableEq, Repr

/-- A term of a statement as it is seen from one table. -/
structure Term where
  /-- All sides of one term have the same number. -/
  number : Nat
  table : Nat
  column : Nat
  asked : Asked
  /-- The table that has to be gone through before. -/
  needs : Option Nat := none
  /-- The columns that the term names, each with its table. -/
  names : List (Nat × Nat)
  /-- The tables without which the term is not known. -/
  refers : List Nat
  /-- The table and the column that equal the column if the term holds. -/
  equal : Option (Nat × Nat) := none
  /-- Whether the term itself joins the table, which stays if it finds no row. -/
  isOptional : Bool := false
  /-- How the column is compared. -/
  manner : Manner := {}
  /-- Whether the term is another side of one that is there already. -/
  isMirrored : Bool := false
  deriving Repr

/-- A table in a statement. -/
structure Stop where
  relation : Relation
  /-- The columns that the statement needs. -/
  used : List Nat
  /-- Whether the table stays if no row of it is found. -/
  isOptional : Bool
  deriving Repr

/-- The tables of a statement and what is asked of them. -/
structure Task where
  stops : List Stop
  terms : List Term
  deriving Repr

/-! ## Ways through a table -/

/-- A way of going through a table. -/
structure Way where
  table : Nat
  /-- The tables that have to be gone through before. -/
  needs : List Nat
  /-- What it costs before the first row. -/
  setup : Int
  run : Int
  rows : Int
  terms : List Nat
  /-- By what the rows are put in order. -/
  order : List IndexColumn
  /-- Whether an order is used that is kept of the table. -/
  isIndexed : Bool
  /-- Whether that is used to find rows that equal something. -/
  findsEqual : Bool
  /-- Whether the table itself need not be read. -/
  isCovering : Bool
  /-- Whether the order is made for the statement. -/
  isMade : Bool
  deriving Repr

namespace Way

/-- Whether all elements of one list are in another. -/
def within (a b : List Nat) : Bool := a.all b.contains

/-- Whether a way uses fewer terms than another, all of them used there too, and is not dearer. -/
def isCheaperPart (a b : Way) : Bool :=
  a.terms.length < b.terms.length && !(b.run < a.run && b.rows < a.rows) &&
    within a.terms b.terms && (!a.isCovering || b.isCovering)

/-- A way at such a cost that it fits those that use fewer or more terms. -/
def adjusted (ways : List Way) (way : Way) : Way :=
  if !way.isIndexed then way
  else
    (ways.filter fun w => w.table = way.table && w.isIndexed).foldl (fun way w =>
      if isCheaperPart w way then
        { way with run := min w.run way.run, rows := min (w.rows - 1) way.rows }
      else if isCheaperPart way w then
        { way with run := max w.run way.run, rows := max (w.rows + 1) way.rows }
      else way) way

/-- Whether a way is as good as another in every respect. -/
def isNoWorse (a b : Way) : Bool :=
  a.table = b.table && within a.needs b.needs && a.setup ≤ b.setup && a.run ≤ b.run &&
    a.rows ≤ b.rows

/-- Whether a way takes the place of an earlier one. -/
def replaces (way earlier : Way) : Bool :=
  way.table = earlier.table && within way.needs earlier.needs &&
    ((earlier.isMade && way.isIndexed && way.findsEqual) ||
      (way.run ≤ earlier.run && way.rows ≤ earlier.rows))

/-- Puts a way among others: in the place of the first that it replaces, unless one before that
is as good. -/
def insertAmong (way : Way) : List Way → List Way
  | [] => [way]
  | w :: ways =>
    if w.table = way.table && w.isMade && way.replaces w then
      way :: ways.filter (!way.replaces ·)
    else if w.isNoWorse way then w :: ways
    else if way.replaces w then way :: ways.filter (!way.replaces ·)
    else w :: insertAmong way ways

/-- Adds a way to others. -/
def add (ways : List Way) (way : Way) : List Way := insertAmong (adjusted ways way) ways

end Way

namespace Task

/-- How many rows a way gives, with regard to terms that it does not use. -/
def outcome (t : Task) (way : Way) : Int :=
  let isKnown (i : Nat) : Bool := i = way.table || way.needs.contains i
  let unused := t.terms.filter fun term =>
    !term.isMirrored && term.refers.contains way.table && term.refers.all isKnown &&
      !way.terms.contains term.number
  let reduction := if unused.any (·.asked = .equal) then 20 else 0
  min (way.rows - unused.length) (Estimate.tableRows - reduction)

/-- How many columns are looked at that equal each other. -/
def equalLimit : Nat := 11

/-- Columns with those that equal them, from the one at some place on, at most so many steps. -/
def equals (t : Task) : Nat → Nat → List (Nat × Nat) → List (Nat × Nat)
  | 0, _, found => found
  | limit + 1, i, found =>
    match found[i]? with
    | none => found
    | some (table, column) =>
      let more := (t.terms.filter fun term => term.table = table && term.column = column).filterMap
        (·.equal)
      let add (found : List (Nat × Nat)) (c : Nat × Nat) : List (Nat × Nat) :=
        if found.contains c || equalLimit ≤ found.length then found else found ++ [c]
      equals t limit (i + 1) (more.foldl add found)

/-- Whether a term can be used to find rows of a table. -/
def finds (table : Nat) (stop : Stop) (term : Term) : Bool :=
  term.needs ≠ some table && term.asked ≠ .other && (!stop.isOptional || term.isOptional)

/-- The terms that can be used to find rows of a table by a column: first those on the column
itself. -/
def usable (t : Task) (table : Nat) (stop : Stop) (column : Nat) : List Term :=
  (t.equals equalLimit 0 [(table, column)]).zipIdx.flatMap fun (c, i) =>
    t.terms.filter fun term =>
      term.table = c.1 && term.column = c.2 && finds table stop term &&
        (if i = 0 then stop.isOptional || !term.isOptional else !term.isOptional)

/-- Whether an order of texts and numbers serves a comparison. -/
def serves (stop : Stop) (c : IndexColumn) (term : Term) : Bool :=
  let affinity := ((stop.relation.columns[c.position]?).map (·.affinity)).getD .integer
  let fits : Bool :=
    match term.manner.affinity with
    | .any => true
    | .text => affinity = .text
    | _ => affinity.isNumeric
  c.position = stop.relation.columns.length || term.asked = .null ||
    (fits && term.manner.collation = c.collation)

/-- An order that is kept of a table, as far as its cost is concerned. -/
structure Kept where
  columns : List IndexColumn
  /-- The logarithms of how many rows agree on the first columns. -/
  estimates : List Int
  /-- What it costs more to go through the entries. -/
  step : Int
  isCovering : Bool
  /-- Whether it is the order of the keys themselves. -/
  isOwn : Bool

/-- How far an order is used to find rows. -/
structure Search where
  equal : Nat := 0
  hasBottom : Bool := false
  rows : Int := Estimate.tableRows
  terms : List Nat := []
  needs : List Nat := []
  findsEqual : Bool := false

/-- How many rows are left between bounds. Not being null is no bound that counts. -/
def between (rows : Int) (bounds : List Asked) : Int :=
  let narrowed := bounds.foldl (fun rows asked => if asked = .notNull then rows else rows - 20) rows
  let narrowed := if bounds.length = 2 then narrowed - 20 else narrowed
  min (rows - bounds.length) (max narrowed 10)

/-- The ways in which an order is used to find rows, with one more term for each, at most so
many. -/
def searches (t : Task) (table : Nat) (stop : Stop) (needs : List Nat) (kept : Kept) :
    Nat → Search → List Way
  | 0, _ => []
  | limit + 1, s =>
    match kept.columns[s.equal]? with
    | none => []
    | some c =>
      let fitting := (t.usable table stop c.position).filter fun term =>
        serves stop c term && (if s.hasBottom then term.asked = .less else true)
      fitting.flatMap fun term =>
        let isRange : Bool := [Asked.less, .greater, .notNull].contains term.asked
        let estimate (i : Nat) : Int := kept.estimates.getD i 0
        let change := estimate (s.equal + 1) - estimate s.equal
        let rows :=
          match term.asked with
          | .equal => s.rows + change
          | .null => s.rows + change + 10
          | .less => between s.rows (if s.hasBottom then [.greater, .less] else [.less])
          | asked => between s.rows [asked]
        let equal := if isRange then s.equal else s.equal + 1
        let terms := s.terms ++ [term.number]
        let needed := s.needs ++ term.needs.toList
        let findsEqual := s.findsEqual || term.asked = .equal
        let found := Estimate.sum Estimate.seek (rows + kept.step)
        let run :=
          if kept.isCovering || kept.isOwn then found else Estimate.sum found (rows + 16)
        let way : Way :=
          { table, needs := needs ++ needed, setup := 0, run, rows, terms, order := kept.columns
            isIndexed := !kept.isOwn, findsEqual, isCovering := kept.isCovering, isMade := false }
        let way := { way with rows := t.outcome way }
        if term.asked = .less || (kept.isOwn && !isRange) then [way]
        else
          let next : Search :=
            { equal, hasBottom := s.hasBottom || isRange, rows := if isRange then s.rows else rows
              terms, needs := needed, findsEqual }
          way :: searches t table stop needs kept limit next

/-- The logarithms of how many rows agree on the first of so many columns. -/
def estimates (count : Nat) (unique : Bool) : List Int :=
  let usual := Estimate.tableRows :: [33, 32, 30, 28, 26] ++ List.replicate count 23
  if unique then usual.take count ++ [0] else usual.take (count + 1)

/-- The order of the keys. -/
def ownOrder (stop : Stop) : Kept where
  columns := [{ position := stop.relation.columns.length }]
  estimates := [Estimate.tableRows, 0]
  step := 16
  isCovering := false
  isOwn := true

/-- An order that is kept beside or instead of that of the keys. Its entries lead to rows by
their keys or by the columns by which the rows are kept; in the order of a constraint, these
columns rise and are not taken for columns of the order. -/
def keptOrder (stop : Stop) (index : Index) : Kept :=
  let r := stop.relation
  let own := index.columns.map fun c => { c with position := r.placeOf c.position }
  let isNew (c : IndexColumn) : Bool :=
    !own.any fun d => d.position = c.position && d.collation = c.collation
  let rest : List IndexColumn :=
    if index.purpose = .records then []
    else if r.keyed then [{ position := r.columns.length }]
    else if index.purpose = .search then r.order.filter isNew
    else (r.order.filter isNew).map ({ · with falling := false })
  let columns := own ++ rest
  let width :=
    if index.purpose = .records then r.entryWidth (List.range r.columns.length)
    else r.entryWidth (columns.map (·.position))
  let covering := if r.keyed || index.purpose = .search then columns else own
  { columns
    estimates := estimates index.columns.length index.unique
    step := 1 + 15 * width / r.rowWidth
    isCovering :=
      index.purpose = .records || stop.used.all (covering.map (·.position)).contains
    isOwn := false }

/-- What it costs to look the rows of a table up that an order leads to, if what is known from the
order need not be looked up. -/
def lookups (t : Task) (table : Nat) (positions : List Nat) : Int :=
  let isKnown (term : Term) : Bool :=
    term.names.all fun (i, column) => i ≠ table || positions.contains column
  (t.terms.takeWhile isKnown).foldl
    (fun cost term => if term.asked = .equal then cost - 20 else cost - 1)
    (Estimate.tableRows + 16)

/-- The ways of going through a table by an order that is kept of it. -/
def keptWays (t : Task) (table : Nat) (stop : Stop) (needs : List Nat) (kept : Kept) : List Way :=
  let r := stop.relation
  let positions := kept.columns.map (·.position)
  let isNarrow : Bool := r.entryWidth positions < r.rowWidth
  let entries := Estimate.tableRows + kept.step
  let run :=
    if kept.isOwn || kept.isCovering then entries
    else Estimate.sum entries (t.lookups table positions)
  let way : Way :=
    { table, needs, setup := 0, run, rows := Estimate.tableRows
      terms := [], order := kept.columns, isIndexed := !kept.isOwn, findsEqual := false
      isCovering := kept.isCovering, isMade := false }
  let whole := { way with rows := t.outcome way }
  let isWhole : Bool := kept.isOwn || !r.keyed || (kept.isCovering && isNarrow)
  (if isWhole then [whole] else []) ++
    t.searches table stop needs kept (2 * kept.columns.length + 2) {}

/-- Whether an order can be made by the column of a term. -/
def drives (table : Nat) (stop : Stop) (term : Term) : Bool :=
  term.table = table && finds table stop term && term.asked = .equal &&
    (stop.isOptional || !term.isOptional) && term.column < stop.relation.columns.length &&
    serves stop { position := term.column, collation := term.manner.collation } term

/-- The ways of going through a table by an order that is made for the statement. -/
def madeWays (t : Task) (table : Nat) (stop : Stop) (needs : List Nat) : List Way :=
  let rows := 43
  if !stop.relation.keyed then []
  else
    (t.terms.filter (drives table stop)).map fun term =>
      { table, needs := needs ++ term.needs.toList
        setup := Estimate.seek + Estimate.tableRows + 28
        run := Estimate.sum Estimate.seek rows, rows, terms := [term.number], order := []
        isIndexed := false, findsEqual := false, isCovering := false, isMade := true }

/-- The ways of going through a table. -/
def waysThrough (t : Task) (table : Nat) (stop : Stop) (needs : List Nat) : List Way :=
  let r := stop.relation
  let kept := (if r.keyed then [ownOrder stop] else []) ++ r.indexes.map (keptOrder stop)
  t.madeWays table stop needs ++ kept.flatMap (t.keptWays table stop needs)

/-- The ways of going through all tables. A table that stays if it finds no row comes after all
that are before it. -/
def ways (t : Task) : List Way :=
  let found := t.stops.zipIdx.flatMap fun (stop, i) =>
    t.waysThrough i stop (if stop.isOptional then List.range i else [])
  found.foldl Way.add []

/-! ## Routes -/

/-- A way through some of the tables, one inside the other. -/
structure Route where
  ways : List Way := []
  rows : Int := 0
  cost : Int := 0
  /-- The cost that counts for what is added. -/
  carried : Int := 0

/-- A route with one more table inside, unless the way cannot be taken there. -/
def Route.extended? (route : Route) (way : Way) : Option Route :=
  let passed := route.ways.map (·.table)
  if passed.contains way.table || !Way.within way.needs passed then none
  else if way.isMade && route.rows < 3 then none
  else
    let run := way.run + route.rows
    let run := if way.setup = 0 then run else Estimate.sum way.setup run
    let cost := Estimate.sum run route.carried
    some { ways := route.ways ++ [way], rows := route.rows + way.rows, cost, carried := cost - 2 }

/-- Whether two routes go through the same tables. -/
def Route.meets (a b : Route) : Bool :=
  let tables (r : Route) : List Nat := r.ways.map (·.table)
  Way.within (tables a) (tables b) && Way.within (tables b) (tables a)

/-- Whether a route is better than another through the same tables. -/
def Route.beats (a b : Route) : Bool :=
  a.cost < b.cost || (a.cost = b.cost &&
    (a.rows < b.rows || (a.rows = b.rows && a.carried < b.carried)))

/-- How many routes are kept while the tables are added. -/
def routeLimit (tables : Nat) : Nat := if tables ≤ 1 then 1 else if tables = 2 then 5 else 10

/-- Whether a pair is less than another: first the first numbers count. -/
def isLess (a b : Int × Int) : Bool := a.1 < b.1 || (a.1 = b.1 && a.2 < b.2)

/-- The place of the dearest route, and how dear it is. Of the first one the rows count. -/
def dearest (routes : List Route) : Nat × Int × Int :=
  let dearer (best : Nat × Int × Int) (entry : Route × Nat) : Nat × Int × Int :=
    let (route, i) := entry
    let cost := (route.cost, route.carried)
    if isLess best.2 cost then (i, cost) else best
  match routes with
  | [] => (0, 0, 0)
  | first :: rest => (rest.zipIdx 1).foldl dearer (0, first.cost, first.rows)

/-- Routes with one more. Of those through the same tables the best is kept, and not more than
the limit. -/
def Route.keep (limit : Nat) (routes : List Route) (route : Route) : List Route :=
  match routes.findIdx? route.meets with
  | some i =>
    if routes[i]?.any route.beats then routes.set i route else routes
  | none =>
    if routes.length < limit then routes ++ [route]
    else
      let (i, cost) := dearest routes
      if isLess (route.cost, route.carried) cost then routes.set i route else routes

/-- The best routes through so many tables. -/
def routes (t : Task) : Nat → List Route
  | 0 => [{}]
  | count + 1 =>
    let found := (t.routes count).flatMap fun route => t.ways.filterMap route.extended?
    found.foldl (Route.keep (routeLimit t.stops.length)) []

/-- The best route through all tables. -/
def best (t : Task) : Route :=
  match t.routes t.stops.length with
  | [] => {}
  | first :: rest => rest.foldl (fun best r => if r.cost < best.cost then r else best) first

/-! ## Orders -/

/-- The columns by which the rows of a table come that is gone through after others: in an order
that is made, the columns that are compared come first, then all that are used. -/
def orderOf (t : Task) (passed : List Nat) (way : Way) : List IndexColumn :=
  match t.stops[way.table]? with
  | none => []
  | some stop =>
    if !way.isMade then way.order
    else
      let isKnown (term : Term) : Bool := term.needs.all passed.contains
      let keys := ((t.terms.filter fun term => drives way.table stop term && isKnown term).map
        (·.column)).eraseDups
      let others := (List.range stop.relation.columns.length).filter fun i =>
        stop.used.contains i && !keys.contains i
      (keys ++ others ++ [stop.relation.columns.length]).map fun position => { position }

/-- The tables in the order in which they are gone through, each with the columns by which its
rows come. -/
def itinerary (t : Task) : List (Nat × List IndexColumn) :=
  let tables := t.best.ways.map (·.table)
  t.best.ways.zipIdx.map fun (way, i) => (way.table, t.orderOf (tables.take i) way)

end Task

end DottedQuery.Store
