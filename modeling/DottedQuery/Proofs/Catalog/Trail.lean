/-
# DottedQuery.Proofs.Catalog.Trail -- chains of relationships in a catalog

A trail leads from an entity over relationships, each one of the entity reached so far, to the entity
at the end. Resolving a path succeeds exactly when there is a trail over the names of the path whose
last entity has the field at its end (`resolve_eq_ok_iff`), and names determine the trail
(`Trail.unique`): two paths that begin with the same names cross the same relationships.

Nothing here asks for a validated catalog. That an entity is found under its own name is all that the
walk needs, and whatever a catalog finds has the name that it was looked for.
-/
import DottedQuery.Plan.Resolution
import DottedQuery.Proofs.Dictionaries
import DottedQuery.Proofs.Success

namespace DottedQuery

/-! ## What is found under a name bears the name -/

theorem Entity.name_of_relationship? {e : Entity} {name : String} {r : Relationship}
    (h : e.relationship? name = some r) : r.name = name := e.edges_keyed.name_eq h

theorem Entity.name_of_field? {e : Entity} {name : String} {f : Field}
    (h : e.field? name = some f) : f.name = name := e.fields_keyed.name_eq h

namespace Catalog

variable {c : Catalog} {e target mid last : Entity} {name root : String} {edge : Relationship}
  {hops hops' rest : List Relationship} {path : FieldPath}

theorem name_of_entity? (h : c.entity? name = some e) : e.name = name := by
  have hname := List.find?_some h
  exact of_decide_eq_true hname

/-- An entity that is found is found under its own name. -/
theorem entity?_name (h : c.entity? name = some e) : c.entity? e.name = some e := by
  rw [name_of_entity? h]
  exact h

theorem relationship?_eq (h : c.entity? e.name = some e) (name : String) :
    c.relationship? e.name name = e.relationship? name := by
  rw [relationship?, h, Option.bind_some]

theorem field?_eq (h : c.entity? e.name = some e) (name : String) :
    c.field? e.name name = e.field? name := by
  rw [Catalog.field?, h, Option.bind_some]

/-- The table of a known entity is its own: the name of the entity does not stand in for it. -/
theorem tableOf_eq (h : c.entity? name = some e) : c.tableOf name = e.tableName := by
  rw [tableOf, h]
  rfl

theorem requireEntity_eq_ok_iff : c.requireEntity name = .ok e ↔ c.entity? name = some e := by
  unfold requireEntity
  cases c.entity? name with
  | none =>
    constructor
    · intro h
      cases h
    · intro h
      cases h
  | some found => rw [Except.ok.injEq, Option.some.injEq]

/-! ## Trails -/

/-- Relationships that lead from one entity to another. -/
inductive Trail (c : Catalog) : Entity → List Relationship → Entity → Prop
  | here (e : Entity) : Trail c e [] e
  | cross {e target last : Entity} {edge : Relationship} {rest : List Relationship}
      (hedge : e.relationship? edge.name = some edge) (htarget : c.entity? edge.target = some target)
      (hrest : Trail c target rest last) : Trail c e (edge :: rest) last

/-- A trail goes on over one more relationship of its last entity. -/
theorem Trail.concat (h : Trail c e hops mid) (hedge : mid.relationship? edge.name = some edge)
    (htarget : c.entity? edge.target = some target) : Trail c e (hops ++ [edge]) target := by
  induction h with
  | here e => exact .cross hedge htarget (.here target)
  | cross hfirst hnext _ ih => exact .cross hfirst hnext (ih hedge)

/-- A trail can be cut anywhere. -/
theorem Trail.split (h : Trail c e (hops ++ rest) last) :
    ∃ mid, Trail c e hops mid ∧ Trail c mid rest last := by
  induction hops generalizing e with
  | nil => exact ⟨e, .here e, h⟩
  | cons edge hops ih =>
    cases h with
    | cross hedge htarget hrest =>
      obtain ⟨mid, hmid, hlast⟩ := ih hrest
      exact ⟨mid, .cross hedge htarget hmid, hlast⟩

/-- The names of its relationships determine a trail. -/
theorem Trail.unique {last' : Entity} (h : Trail c e hops last) (h' : Trail c e hops' last')
    (hnames : hops.map (·.name) = hops'.map (·.name)) : hops = hops' ∧ last = last' := by
  induction h generalizing hops' with
  | here e =>
    cases h' with
    | here _ => exact ⟨rfl, rfl⟩
    | cross _ _ _ => cases hnames
  | @cross e target last edge rest hedge htarget _ ih =>
    cases h' with
    | here _ => cases hnames
    | @cross _ target' _ edge' rest' hedge' htarget' hrest' =>
      obtain ⟨hname, hothers⟩ := List.cons.inj hnames
      -- an entity has one relationship of a name
      have hsame : edge = edge' := by
        have hboth : some edge = some edge' := by
          rw [← hedge, ← hedge']
          exact congrArg e.relationship? hname
        exact Option.some.inj hboth
      subst hsame
      rw [htarget] at htarget'
      cases htarget'
      obtain ⟨hrest, hlast⟩ := ih hrest' hothers
      exact ⟨by rw [hrest], hlast⟩

/-- A trail from a known entity ends at a known entity. -/
theorem Trail.knows (h : Trail c e hops last) (he : c.entity? e.name = some e) :
    c.entity? last.name = some last := by
  induction h with
  | here e => exact he
  | cross _ htarget _ ih => exact ih (entity?_name htarget)

/-! ## Following names, and resolving paths -/

/-- Following names from a known entity succeeds exactly along a trail with these names. -/
theorem follow_eq_ok_iff {names : List String} (he : c.entity? e.name = some e) :
    c.follow path e names = .ok (hops, last) ↔
      Trail c e hops last ∧ hops.map (·.name) = names := by
  induction names generalizing e hops last with
  | nil =>
    rw [follow, Except.ok.injEq, Prod.mk.injEq]
    constructor
    · rintro ⟨rfl, rfl⟩
      exact ⟨.here e, rfl⟩
    · rintro ⟨h, hnil⟩
      cases h with
      | here _ => exact ⟨rfl, rfl⟩
      | cross _ _ _ => cases hnil
  | cons name names ih =>
    rw [follow, relationship?_eq he]
    constructor
    · intro h
      cases hedge : e.relationship? name with
      | none =>
        rw [hedge] at h
        cases h
      | some edge =>
        rw [hedge] at h
        obtain ⟨target, htarget, h⟩ := bind_eq_ok.mp h
        obtain ⟨⟨rest, last'⟩, hrest, h⟩ := bind_eq_ok.mp h
        have htarget' : c.entity? edge.target = some target := requireEntity_eq_ok_iff.mp htarget
        obtain ⟨htrail, hnames⟩ := (ih (entity?_name htarget')).mp hrest
        have hname : edge.name = name := Entity.name_of_relationship? hedge
        cases h
        refine ⟨.cross (hname ▸ hedge) htarget' htrail, ?_⟩
        rw [List.map_cons, hname, hnames]
    · rintro ⟨h, hnames⟩
      cases h with
      | here _ => cases hnames
      | @cross _ target _ edge rest hedge htarget hrest =>
        obtain ⟨rfl, hothers⟩ := List.cons.inj hnames
        rw [hedge]
        refine bind_eq_ok.mpr ⟨target, requireEntity_eq_ok_iff.mpr htarget, ?_⟩
        exact bind_eq_ok.mpr ⟨(rest, last), (ih (entity?_name htarget)).mpr ⟨hrest, hothers⟩, rfl⟩

/-- A path resolves exactly along a trail over its names to an entity with its field. -/
theorem resolve_eq_ok_iff {r : Resolution} :
    c.resolve root path = .ok r ↔
      r.path = path ∧ r.hops.map (·.name) = path.relationships ∧
        r.entity.field? path.field = some r.field ∧
        ∃ start, c.entity? root = some start ∧ Trail c start r.hops r.entity := by
  unfold resolve
  rw [bind_eq_ok]
  constructor
  · rintro ⟨start, hstart, h⟩
    obtain ⟨⟨hops, entity⟩, hfollow, h⟩ := bind_eq_ok.mp h
    have hstart' : c.entity? root = some start := requireEntity_eq_ok_iff.mp hstart
    obtain ⟨htrail, hnames⟩ := (follow_eq_ok_iff (entity?_name hstart')).mp hfollow
    have hlast : c.entity? entity.name = some entity := htrail.knows (entity?_name hstart')
    simp only [field?_eq hlast] at h
    cases hfield : entity.field? path.field with
    | none =>
      rw [hfield] at h
      cases h
    | some field =>
      rw [hfield] at h
      cases h
      exact ⟨rfl, hnames, hfield, start, hstart', htrail⟩
  · rintro ⟨rfl, hnames, hfield, start, hstart, htrail⟩
    refine ⟨start, requireEntity_eq_ok_iff.mpr hstart, bind_eq_ok.mpr ⟨(r.hops, r.entity), ?_, ?_⟩⟩
    · exact (follow_eq_ok_iff (entity?_name hstart)).mpr ⟨htrail, hnames⟩
    · have hlast : c.entity? r.entity.name = some r.entity := htrail.knows (entity?_name hstart)
      simp only [field?_eq hlast, hfield]
      rfl

end Catalog

end DottedQuery
