/-
# DottedQuery.Proofs.Store.KeyAgreement -- what joins along foreign keys pair

A relationship that comes from a foreign key has one join column on each side, so the statement of a
plan pairs the rows of two tables that agree on one column of the key, whichever columns the key has
(`joins_of_foreign_keys`). Rows that agree on the whole key are among them, and for a key of one column
there are no others. This needs that texts compare in both columns alike: on the way to many records,
they compare as the child's column has them and not as the parent's.
-/
import DottedQuery.Proofs.Catalog.Introspected
import DottedQuery.Proofs.Store.Execution
import DottedQuery.Proofs.Store.Hosting

namespace DottedQuery

open Sql (JoinKind)
open Store (Assignment Cell Column Database ForeignKey Manner PreparedJoin Prepared Relation Row Slot Table
  prepare)

/-! ## Equality of columns -/

/-- Equality does not tell its sides apart. -/
theorem Store.Cell.agrees_comm (m : Manner) (a b : Cell) : a.agrees m b = b.agrees m a := by
  unfold agrees
  cases a.rank m with
  | none => cases b.rank m <;> rfl
  | some rank =>
    cases b.rank m with
    | none => rfl
    | some rank' => exact decide_eq_decide.mpr eq_comm

/-- Columns in which texts compare alike compare with each other either way. -/
theorem Store.Manner.joined_comm {m other : Manner} (h : m.collation = other.collation) :
    m.joined other = other.joined m := by
  rw [joined, joined, h, Bool.or_comm]

namespace Store.Table

/-- The cell of a row in the column of this name. -/
def cellOf (t : Table) (row : Row) (column : String) : Cell :=
  match t.relation.columnIndex? column with
  | some k => row.getD k .null
  | none => .null

/-- How the cells in the column of this name compare. -/
def mannerOf (t : Table) (column : String) : Manner :=
  match t.relation.columnIndex? column with
  | some k => t.relation.mannerAt k
  | none => {}

/-- Whether a column of a row equals a column of a row of another table. Texts compare as the first
column has them. -/
def equates (t : Table) (column : String) (other : Table) (otherColumn : String) (row otherRow : Row) :
    Bool :=
  (t.cellOf row column).agrees ((t.mannerOf column).joined (other.mannerOf otherColumn))
    (other.cellOf otherRow otherColumn)

variable {t other : Table} {column otherColumn : String}

/-- Where texts compare alike in both columns, it does not matter which comes first. -/
theorem equates_comm (h : (t.mannerOf column).collation = (other.mannerOf otherColumn).collation)
    (row otherRow : Row) : t.equates column other otherColumn row otherRow =
      other.equates otherColumn t column otherRow row := by
  rw [equates, equates, Cell.agrees_comm, Manner.joined_comm h]

end Store.Table

/-- Each table is what is found under its name. -/
theorem Store.Database.Distinct.relation_eq {db : Database} {t : Table} (h : db.Distinct)
    (ht : t ∈ db.tables) {r : Relation} (hr : db.relation t.name = .ok r) : r = t.relation := by
  rw [Store.Database.relation, Store.Database.relationFrom, h.table?_eq ht] at hr
  have hr : t.flaw.elim (Except.ok t.relation) Except.error = .ok r := hr
  cases hflaw : t.flaw with
  | none =>
    rw [hflaw] at hr
    exact (Except.ok.inj hr).symm
  | some flaw =>
    rw [hflaw] at hr
    cases hr

/-! ## Joins of a statement -/

section Statement

variable {g : RecordGraph} {start e target : Entity} {t : JoinTree} {n parent : JoinNode}
  {edge : Relationship} {j : PreparedJoin} {slot : Slot} {column : String} {source joined : Table}

/-- A column of a node is looked up in the table that the database has for the node. -/
theorem RecordGraph.SlotOf.cellOf_eq (h : g.SlotOf n column slot) (hn : g.relationOf n = source.relation)
    (row : Row) : row.getD slot.column .null = source.cellOf row column := by
  rw [Store.Table.cellOf, ← hn, h.column_eq]

theorem RecordGraph.SlotOf.mannerOf_eq (h : g.SlotOf n column slot)
    (hn : g.relationOf n = source.relation) : slot.manner = source.mannerOf column := by
  rw [Store.Table.mannerOf, ← hn, h.column_eq, h.manner_eq]

/-- A join pairs the rows in which its two columns are equal. -/
theorem RecordGraph.Ready.partners_eq (h : g.Ready start t n j parent edge e target)
    (hparent : g.relationOf parent = source.relation) (hn : g.relationOf n = joined.relation)
    {a : Assignment} {x : Row} (hx : a[parent.id]? = some (some x)) :
    j.partners a = joined.relation.rows.filter fun y =>
      joined.equates edge.targetColumn source edge.sourceColumn y x := by
  have hcell : a.cell j.partner = source.cellOf x edge.sourceColumn := by
    rw [Assignment.cell, h.partner_slot.table_eq, hx]
    exact h.partner_slot.cellOf_eq hparent x
  rw [PreparedJoin.partners, h.rows_eq, hn, hcell]
  refine List.filter_congr fun y _ => ?_
  rw [h.target_slot.cellOf_eq hn, h.target_slot.mannerOf_eq hn, h.partner_slot.mannerOf_eq hparent,
    Store.Table.equates]

/-- The rows of a node are those of the table of its entity. -/
theorem RecordGraph.Shown.relationOf_eq (h : g.Shown n e) (hdb : g.db.Distinct)
    (hsource : source ∈ g.db.tables) (hname : e.tableName = source.name) :
    g.relationOf n = source.relation := by
  have hrelation := h.relation_eq
  rw [relation?, hname] at hrelation
  cases hfound : g.db.relation source.name with
  | error fault =>
    rw [hfound] at hrelation
    cases hrelation
  | ok r =>
    rw [hfound] at hrelation
    cases hrelation
    exact hdb.relation_eq hsource hfound

/-- The statement of a plan was prepared, so it was prepared as the plan says. -/
theorem RecordGraph.looked_of_prepare {spec : QuerySpec} {p : Plan} {kind : JoinKind} {s : Prepared}
    (hp : Catalog.Planned g.catalog spec p start) (hroot : g.root = spec.table)
    (hs : prepare g.db (p.select kind) = .ok s) :
    g.Backed spec p start ∧ g.Looked start p kind s := by
  obtain ⟨hfound, hlimit⟩ := found_of_prepare hp hroot hs
  have hb : g.Backed spec p start := ⟨hp, hroot, hfound.hosts hp hroot⟩
  obtain ⟨s', hs', hlooked⟩ := exists_prepare hb kind hlimit
  obtain rfl : s = s' := Except.ok.inj (hs.symm.trans hs')
  exact ⟨hb, hlooked⟩

end Statement

/-! ## Foreign keys -/

namespace Cardinality

variable {α : Type}

/-- Of what belongs to the child and to the parent of a key, that which is where a relationship of the
key begins. -/
def near (side : Cardinality) (ofChild ofParent : α) : α :=
  match side with
  | one => ofChild
  | many => ofParent

/-- Of what belongs to the child and to the parent of a key, that which is where a relationship of the
key leads. -/
def far (side : Cardinality) (ofChild ofParent : α) : α :=
  match side with
  | one => ofParent
  | many => ofChild

end Cardinality

namespace Catalog

variable {db : Database} {c : Catalog} {e target : Entity} {spec : QuerySpec} {p : Plan}
  {kind : JoinKind} {s : Prepared} {key : KeyColumn} {foreign : ForeignKey} {side : Cardinality}
  {child parent t : Table} {i : Nat} {column : String} {names : List String}

/-- A foreign key names the columns of the parent that it refers to, as many as it has itself. -/
def Names (foreign : ForeignKey) (names : List String) : Prop :=
  foreign.parentColumns = some names ∧ names.length = foreign.columns.length

/-- A row of the child and a row of the parent agree on all columns of a foreign key. Texts compare as
the parent's columns have them. -/
def AgreesOn (foreign : ForeignKey) (names : List String) (child parent : Table) (x y : Row) : Prop :=
  ∀ (i : Nat) column other, foreign.columns[i]? = some column → names[i]? = some other →
    parent.equates other child column y x = true

/-- Whether what a relationship of a key joins is equal in a row where it begins and a row where it
leads. Texts compare as the column has them to which it leads. -/
def KeyColumn.equates (key : KeyColumn) (side : Cardinality) (child parent : Table) (x y : Row) : Bool :=
  (side.far child parent).equates (key.link side).targetColumn (side.near child parent)
    (key.link side).sourceColumn y x

/-- Texts compare in the columns of a key as they do in the parent's column: this is the one to which
the relationship leads, or the other one is like it. -/
def KeyColumn.Collates (key : KeyColumn) (side : Cardinality) (child parent : Table) : Prop :=
  side = .many → (child.mannerOf key.column).collation = (parent.mannerOf key.parentColumn).collation

/-- Then both sides of a key join the same rows. -/
theorem KeyColumn.equates_eq (h : key.Collates side child parent) (x y : Row) :
    key.equates side child parent x y =
      parent.equates key.parentColumn child key.column (side.far x y) (side.near x y) := by
  cases side with
  | one => rfl
  | many => exact Store.Table.equates_comm (h rfl) y x

/-- The column that a foreign key refers to with one of its own. -/
theorem Names.parentColumn_eq (h : Names foreign names) {other : String} (hother : names[i]? = some other) :
    (keyColumn t foreign i column).parentColumn = other := by
  show (foreign.parentColumns.bind (·[i]?)).getD "id" = other
  rw [h.1, Option.bind_some, hother, Option.getD_some]

/-- Rows that agree on a foreign key are equal in each of its columns. -/
theorem equates_of_agreesOn (hnames : Names foreign names) (hcolumn : foreign.columns[i]? = some column)
    (hcollates : (keyColumn child foreign i column).Collates side child parent) {x y : Row}
    (h : AgreesOn foreign names child parent (side.near x y) (side.far x y)) :
    (keyColumn child foreign i column).equates side child parent x y = true := by
  have hi : i < names.length := by
    rw [hnames.2]
    exact (List.getElem?_eq_some_iff.mp hcolumn).1
  have hother : names[i]? = some names[i] := List.getElem?_eq_getElem hi
  rw [KeyColumn.equates_eq hcollates, hnames.parentColumn_eq hother]
  exact h i column _ hcolumn hother

/-- A foreign key of one column is agreed on where this column is equal. -/
theorem agreesOn_of_equates (hnames : Names foreign names) (hcolumn : foreign.columns[i]? = some column)
    (hcollates : (keyColumn child foreign i column).Collates side child parent)
    (hone : foreign.columns.length = 1) {x y : Row}
    (h : (keyColumn child foreign i column).equates side child parent x y = true) :
    AgreesOn foreign names child parent (side.near x y) (side.far x y) := by
  intro k column' other hcolumn' hother
  -- there is no other column
  have hi := (List.getElem?_eq_some_iff.mp hcolumn).1
  have hk := (List.getElem?_eq_some_iff.mp hcolumn').1
  obtain rfl : k = i := by omega
  obtain rfl : column' = column := Option.some.inj (hcolumn'.symm.trans hcolumn)
  rw [KeyColumn.equates_eq hcollates, hnames.parentColumn_eq hother] at h
  exact h

/-! ## Relationships of foreign keys -/

/-- A join of a statement over one column of a foreign key, from the table at some position. -/
structure Pairs (source : Nat) (j : PreparedJoin) (child parent : Table) (foreign : ForeignKey)
    (key : KeyColumn) (side : Cardinality) : Prop where
  /-- The rows that are paired are equal in this column. -/
  partners_eq : ∀ (a : Assignment) x, a[source]? = some (some x) →
    j.partners a = (side.far child parent).relation.rows.filter (key.equates side child parent x)
  /-- Rows that agree on the whole key are paired. -/
  complete : ∀ names, Names foreign names → key.Collates side child parent →
    ∀ (a : Assignment) x, a[source]? = some (some x) → ∀ y ∈ (side.far child parent).relation.rows,
      AgreesOn foreign names child parent (side.near x y) (side.far x y) → y ∈ j.partners a
  /-- If the key has one column, no other rows are paired. -/
  exact : ∀ names, Names foreign names → key.Collates side child parent →
    foreign.columns.length = 1 →
    ∀ (a : Assignment) x, a[source]? = some (some x) → ∀ y ∈ j.partners a,
      AgreesOn foreign names child parent (side.near x y) (side.far x y)

theorem pairs_of_partners {source : Nat} {j : PreparedJoin} (hcolumn : foreign.columns[i]? = some column)
    (h : ∀ (a : Assignment) x, a[source]? = some (some x) →
      j.partners a = (side.far child parent).relation.rows.filter
        ((keyColumn child foreign i column).equates side child parent x)) :
    Pairs source j child parent foreign (keyColumn child foreign i column) side where
  partners_eq := h
  complete := by
    intro names hnames hcollates a x hx y hy hagrees
    rw [h a x hx]
    exact List.mem_filter.mpr ⟨hy, equates_of_agreesOn hnames hcolumn hcollates hagrees⟩
  exact := by
    intro names hnames hcollates hone a x hx y hy
    rw [h a x hx] at hy
    exact agreesOn_of_equates hnames hcolumn hcollates hone (List.mem_filter.mp hy).2

/-- A relationship of a key of a table leads between this table and the parent. -/
theorem exists_parent {source joined : Table} (hnames : ((userTables db).map (·.name)).Nodup)
    (hchild : child ∈ userTables db) (hsource : source ∈ userTables db) (hjoined : joined ∈ userTables db)
    (hkey : key.child = child.name) (howner : key.owner side = source.name)
    (htarget : (key.link side).target = joined.name) :
    ∃ parent ∈ userTables db, parent.name = key.parent ∧ side.near child parent = source ∧
      side.far child parent = joined := by
  have hsame : ∀ t ∈ userTables db, key.child = t.name → child = t := fun t ht hname =>
    List.inj_on_of_nodup_map hnames hchild ht (hkey.symm.trans hname)
  cases side with
  | one => exact ⟨joined, hjoined, htarget.symm, hsame source hsource howner, rfl⟩
  | many => exact ⟨source, hsource, howner.symm, rfl, hsame joined hjoined htarget⟩

/-- A join of the statement of a plan is between two tables of the user, along a relationship that a key
gives to the first of them. -/
theorem exists_tables {start e target : Entity} {n node : JoinNode} {edge : Relationship} {j : PreparedJoin}
    (hdb : db.Distinct) (hb : (spec.graph (introspected db) db).Backed spec p start)
    (hn : n ∈ p.joins.joined)
    (hready : (spec.graph (introspected db) db).Ready start p.joins n j node edge e target) :
    ∃ source ∈ userTables db, ∃ joined ∈ userTables db,
      (spec.graph (introspected db) db).relationOf node = source.relation ∧
      (spec.graph (introspected db) db).relationOf n = joined.relation ∧ edge.target = joined.name ∧
      ∃ key ∈ keysOf db, ∃ side, key.owner side = source.name ∧ edge = key.relationship side := by
  obtain ⟨hshown, hshown', -, -⟩ := RecordGraph.positions_of_crossing hb hn hready.crossing
  obtain ⟨hops, hstands, -⟩ := hready.crossing.stands
  have he : (introspected db).entity? e.name = some e :=
    hstands.trail.knows (entity?_name hb.planned.start_eq)
  obtain ⟨source, hsource, -, rfl⟩ := exists_table_of_entity? he
  obtain ⟨joined, hjoined, htarget, rfl⟩ := exists_table_of_entity? hready.crossing.target_eq
  have hedge := hready.crossing.edge_eq
  rw [relationship?_entityOfTable] at hedge
  obtain ⟨⟨side, key⟩, hfirst, hrelationship⟩ := Option.map_eq_some_iff.mp hedge
  obtain ⟨hkey, howner⟩ := mem_of_firstOffer? hfirst
  exact ⟨source, hsource, joined, hjoined,
    hshown'.relationOf_eq hdb (mem_userTables.mp hsource).1 (tableName_entityOfTable _ _),
    hshown.relationOf_eq hdb (mem_userTables.mp hjoined).1 (tableName_entityOfTable _ _),
    htarget.symm, key, hkey, side, howner, hrelationship.symm⟩

/-- In the statement of a plan over a database and its own catalog, every join comes from a column of a
foreign key, and pairs the rows of the two tables in which this column agrees. If texts compare in both
columns of the join alike, or it leads to the parent, then rows that agree on the whole foreign key are
paired, and for a foreign key of one column no others. -/
theorem joins_of_foreign_keys (hdb : db.Distinct) (h : introspect db = .ok c) (hp : c.plan spec = .ok p)
    (hs : prepare db (p.select kind) = .ok s) :
    List.Forall₂ (fun (n : JoinNode) (j : PreparedJoin) => ∃ arrival, n.arrival = some arrival ∧
      (∃ child ∈ userTables db, ∃ key ∈ keyColumns child, ∃ side,
        arrival.edge = key.relationship side) ∧
      ∀ child ∈ userTables db, ∀ foreign ∈ child.foreignKeys, ∀ (i : Nat) column side,
        foreign.columns[i]? = some column →
        arrival.edge = (keyColumn child foreign i column).relationship side →
        ∃ parent ∈ userTables db, parent.name = foreign.parent ∧
          Pairs arrival.parent j child parent foreign (keyColumn child foreign i column) side)
      p.joins.joined s.joins := by
  obtain ⟨rfl, hnames, -⟩ := introspect_eq_ok_iff.mp h
  obtain ⟨start, hplanned⟩ := plan_spec hp
  have hlooked : (spec.graph (introspected db) db).Backed spec p start ∧
      (spec.graph (introspected db) db).Looked start p kind s :=
    RecordGraph.looked_of_prepare hplanned rfl hs
  obtain ⟨hb, hlooked⟩ := hlooked
  refine ((List.forall₂_and_left _ _).mpr ⟨fun n hn => hn, hlooked.joins⟩).imp ?_
  rintro n j ⟨hn, node, edge, e, target, hready⟩
  obtain ⟨source, hsource, joined, hjoined, hsourceOf, hjoinedOf, htarget, key, hkey, side', howner', hedge⟩ :=
    exists_tables hdb hb hn hready
  refine ⟨⟨node.id, edge⟩, hready.crossing.hangs.arrival_eq, ?_, ?_⟩
  · obtain ⟨child, hchild, hkey⟩ := mem_keysOf.mp hkey
    exact ⟨child, hchild, key, hkey, side', hedge⟩
  · rintro child hchild foreign - i column side hcolumn hcomes
    -- the relationship is one of this key too, so it is between the two tables of this key
    have hsame : (keyColumn child foreign i column).relationship side = key.relationship side' :=
      hcomes.symm.trans hedge
    have howner : (keyColumn child foreign i column).owner side = source.name :=
      (congrArg Relationship.source hsame).trans howner'
    have hleads : ((keyColumn child foreign i column).link side).target = joined.name :=
      (congrArg (·.target) hcomes).symm.trans htarget
    obtain ⟨parent, hparent, hname, hnear, hfar⟩ :=
      exists_parent hnames hchild hsource hjoined rfl howner hleads
    refine ⟨parent, hparent, hname, pairs_of_partners hcolumn fun a x hx => ?_⟩
    have hcomes : edge = (keyColumn child foreign i column).relationship side := hcomes
    rw [hready.partners_eq hsourceOf hjoinedOf hx, hcomes, ← hnear, ← hfar]
    rfl

namespace Desks

open Staff (textColumn)
open Store (Record)

/-- The first and the second room of a building. -/
def first : Record := ⟨1, [.ofString "East", .ofString "1"]⟩

def second : Record := ⟨2, [.ofString "East", .ofString "2"]⟩

def rooms : Table where
  name := "rooms"
  columns := [textColumn "building", textColumn "number"]
  records := [first, second]

/-- A desk in the second room. -/
def desk : Record := ⟨1, [.ofString "East", .ofString "2"]⟩

def desks (foreign : ForeignKey) : Table where
  name := "desks"
  columns := [textColumn "site", textColumn "room_number"]
  foreignKeys := [foreign]
  records := [desk]

def database (foreign : ForeignKey) : Database where
  tables := [desks foreign, rooms]

def catalog (foreign : ForeignKey) : Catalog :=
  ⟨[desks foreign, rooms].map (entityOfTable (keyColumns (desks foreign)))⟩

theorem userTables_database (foreign : ForeignKey) :
    userTables (database foreign) = [desks foreign, rooms] := by
  refine userTables_of_sorted ?_ (List.pairwise_pair.mpr ?_)
  · show ∀ t ∈ [desks foreign, rooms], isSystemTable t.name = false
    simp only [List.forall_mem_cons, List.not_mem_nil, false_implies, implies_true, and_true]
    show isSystemTable "desks" = false ∧ isSystemTable "rooms" = false
    decide
  · show "desks" ≤ "rooms"
    decide

/-- A desk is in the room with its number. -/
def byNumber : ForeignKey := ⟨["room_number"], "rooms", some ["number"]⟩

/-- A desk is in the room of its building with its number. -/
def byBuilding : ForeignKey := ⟨["site", "room_number"], "rooms", some ["building", "number"]⟩

theorem introspect_byNumber : introspect (database byNumber) = .ok (catalog byNumber) := by
  rw [introspect, entitiesOfDatabase, userTables_database]
  rfl

theorem isIdentifier_of_mem_roomNumber : ∀ s ∈ ["room"] ++ ["number"], isIdentifier s = true := by
  decide

def roomNumber : FieldPath := ⟨["room"], "number", isIdentifier_of_mem_roomNumber⟩

/-- The numbers of desks and of the rooms that they are in. -/
def numbers : QuerySpec where
  table := "desks"
  fields := [⟨⟨[], "room_number", by decide⟩, none⟩, ⟨roomNumber, none⟩]
  filters := []

/-- The statement pairs a desk with the rooms that agree on the key. -/
theorem joins_of_foreign_keys_byNumber : ∃ p s j, (catalog byNumber).plan numbers = .ok p ∧
    prepare (database byNumber) (p.select .inner) = .ok s ∧ s.joins = [j] ∧
    ∀ (a : Assignment) x, a[0]? = some (some x) → ∀ y ∈ rooms.relation.rows,
      (y ∈ j.partners a ↔ AgreesOn byNumber ["number"] (desks byNumber) rooms x y) := by
  obtain ⟨p, s, n, j, hp, hs, hjoined, hjoins, harrival⟩ : ∃ p s n j,
      (catalog byNumber).plan numbers = .ok p ∧
      prepare (database byNumber) (p.select .inner) = .ok s ∧ p.joins.joined = [n] ∧ s.joins = [j] ∧
      n.arrival = some ⟨0, (keyColumn (desks byNumber) byNumber 0 "room_number").relationship .one⟩ :=
    ⟨_, _, _, _, rfl, rfl, rfl, rfl, rfl⟩
  have hdb : (database byNumber).Distinct := by decide
  have hall := joins_of_foreign_keys hdb introspect_byNumber hp hs
  rw [hjoined, hjoins, userTables_database] at hall
  obtain ⟨⟨arrival, harrival', -, hpairs⟩, -⟩ := List.forall₂_cons.mp hall
  cases harrival.symm.trans harrival'
  obtain ⟨parent, hparent, hname, hpairs⟩ := hpairs (desks byNumber) List.mem_cons_self byNumber
    List.mem_cons_self 0 "room_number" .one rfl rfl
  obtain rfl : parent = rooms := by
    rcases List.mem_pair.mp hparent with rfl | rfl
    · exact absurd hname (by decide)
    · rfl
  refine ⟨p, s, j, hp, hs, hjoins, fun a x hx y hy => ⟨?_, ?_⟩⟩
  · exact hpairs.exact ["number"] ⟨rfl, rfl⟩ nofun rfl a x hx y
  · exact hpairs.complete ["number"] ⟨rfl, rfl⟩ nofun a x hx y hy

/-- Over a key of two columns a desk is paired with both rooms, though it agrees with one of them. -/
theorem execute_byBuilding : introspect (database byBuilding) = .ok (catalog byBuilding) ∧
    (∃ p, (catalog byBuilding).plan numbers = .ok p ∧ (database byBuilding).execute .inner p =
      .ok [[.text "2", .text "1"], [.text "2", .text "2"]]) ∧
    AgreesOn byBuilding ["building", "number"] (desks byBuilding) rooms desk.row second.row ∧
    ¬AgreesOn byBuilding ["building", "number"] (desks byBuilding) rooms desk.row first.row := by
  refine ⟨?_, ⟨_, rfl, rfl⟩, ?_, fun h => ?_⟩
  · rw [introspect, entitiesOfDatabase, userTables_database]
    rfl
  · intro i column other hcolumn hother
    have hi : i < 2 := (List.getElem?_eq_some_iff.mp hcolumn).1
    obtain rfl | rfl : i = 0 ∨ i = 1 := by omega
    · cases hcolumn
      cases hother
      rfl
    · cases hcolumn
      cases hother
      rfl
  · exact absurd (h 1 "room_number" "number" rfl rfl) (by decide)

end Desks

end Catalog

end DottedQuery
