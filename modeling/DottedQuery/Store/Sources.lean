/-
# DottedQuery.Store.Sources -- what a statement can take rows from

A name stands for a table, for what a view shows, for the list of both, or for a table that is
there without being created.
-/
import DottedQuery.Store.BuiltIn
import DottedQuery.Store.Query.Rows

namespace DottedQuery.Store

namespace View

/-- What a view shows on relations in the place of the sources of its query. -/
def relation (v : View) (q : Query) (relations : List Relation) : Except StoreError Relation :=
  match q.relation relations, v.columns with
  | .error fault, _ => .error (.refused fault.message)
  | .ok r, none => .ok r
  | .ok r, some names =>
    if names.length = r.columns.length then
      let columns := names.zipWith (fun name (c : Column) => { c with name }) r.columns
      .ok { r with columns }
    else .error (.notUnderstood v.name)

end View

namespace Database

/-- The names that the list of tables and views goes by. -/
def schemaNames : List String := ["sqlite_master", "sqlite_schema"]

/-- The names of the list of temporary tables, of which there are none. -/
def temporarySchemaNames : List String := ["sqlite_temp_master", "sqlite_temp_schema"]

/-- The relation of this name, going through at most so many views. -/
def relationFrom (db : Database) : Nat → String → Except StoreError Relation
  | 0, name => .error (.noTable name)
  | limit + 1, name =>
    match db.table? name, db.view? name with
    | some table, _ => table.flaw.elim (.ok table.relation) .error
    | none, some view =>
      match view.query with
      | some query => do
        view.relation query (← query.sources.mapM fun source => db.relationFrom limit source.table)
      | none => .error (.notUnderstood name)
    | none, none =>
      if schemaNames.any (Text.sameIgnoringCase name) then
        .ok (schemaRelation db.encoding db.schema)
      else if temporarySchemaNames.any (Text.sameIgnoringCase name) then
        .ok (schemaRelation db.encoding [])
      else
        let viewWidth (view : String) : Nat :=
          ((db.relationFrom limit view).toOption.map (·.shown.length)).getD 0
        match db.builtIn? viewWidth name with
        | some t => .ok (t.relation db.encoding)
        | none => .error (.noTable name)

/-- The relation of this name. A view that shows itself through others shows nothing. -/
def relation (db : Database) (name : String) : Except StoreError Relation :=
  db.relationFrom (db.views.length + 1) name

end Database

end DottedQuery.Store
