/-
# DottedQuery.Proofs.Staff -- persons and their superiors

One catalog, one database and one query, to which general results are applied where they stand. The
catalog has a single relationship, which leads in a circle, so that one table is in a statement in
several roles. In the database one person has no superior and another one has a superior who is not
there, so that the kinds of joins differ, and the filter of the query is unknown for some.
-/
import DottedQuery.Catalog.Basic
import DottedQuery.Spec.Basic
import DottedQuery.Store.Database

namespace DottedQuery.Staff

/-! ## The catalog and the query -/

/-- Persons and their superiors, who are persons and known by their names. -/
def person : Entity :=
  ((Entity.ofName "person").withTable "staff" |>.addField "name" .text
    |>.addField "boss_name" .text).addLink "boss" ⟨"person", "boss_name", "name", .one⟩

/-- A catalog in which the one relationship leads in a circle. -/
def catalog : Catalog := ⟨[person]⟩

/-- The name of somebody. -/
def ownName : FieldPath := ⟨[], "name", by decide⟩

/-- The name of the superior of somebody. -/
def bossName : FieldPath := ⟨["boss"], "name", by decide⟩

/-- Names along the line of superiors, where the next one is not Eve. -/
def query : QuerySpec where
  table := "person"
  fields := [⟨⟨["boss", "boss"], "name", by decide⟩, none⟩, ⟨⟨[], "name", by decide⟩, none⟩]
  filters := [⟨bossName, .not, .text "Eve"⟩]

/-! ## The database -/

/-- A column of texts. -/
def textColumn (name : String) : Store.Column := ⟨name, "TEXT", .text, .binary, false, false⟩

/-- Ann has no superior, Bob's is Ann, Cy's is Bob, and Dee's is not among the staff. -/
def database : Store.Database where
  tables := [{
    name := "staff"
    columns := [textColumn "name", textColumn "boss_name"]
    records := [⟨1, [.ofString "Ann", .null]⟩, ⟨2, [.ofString "Bob", .ofString "Ann"]⟩,
      ⟨3, [.ofString "Cy", .ofString "Bob"]⟩, ⟨4, [.ofString "Dee", .ofString "Zed"]⟩] }]

end DottedQuery.Staff
