/-
# DottedQuery.Proofs.Plan.Resolution -- which paths resolve, and where the others break off

`Leads` says which entity is reached from a root with some names behind: every name is a relationship of
the entity reached before, to an entity that is known. A path resolves exactly if all of its relationships
lead on and its field is one of the entity at the end (`Passable`). What it resolves to spells the path
(`Spells`), and a path that does not resolve breaks off at the first name that leads nowhere (`Breaks`).

The schema may be anything: relationships may lead in a circle, and to entities that there are not. Only
in a catalog that was built do all of them lead somewhere, and then the root is the one entity that can be
unknown. A hop is the relationship as the entity keeps it, under the name and with the source that it was
added with. The source is the name of the entity that the hop leaves if this entity was made under that
name (`Entity.Made`); an entity that was renamed afterwards keeps sources that nothing else speaks of.
-/
import DottedQuery.Proofs.Catalog.Build

namespace DottedQuery

namespace Catalog

variable {c : Catalog} {root name : String} {path : FieldPath} {names : List String}
  {e start mid last target : Entity} {edge : Relationship} {hops : List Relationship} {r : Resolution}
  {fault : PlanError}

/-! ## What is reached -/

/-- Names lead from the root of this name to an entity. -/
inductive Leads (c : Catalog) (root : String) : List String → Entity → Prop
  | start {e : Entity} (hroot : c.entity? root = some e) : Leads c root [] e
  | cross {names : List String} {name : String} {e target : Entity} {edge : Relationship}
      (hnames : Leads c root names e) (hedge : e.relationship? name = some edge)
      (htarget : c.entity? edge.target = some target) : Leads c root (names ++ [name]) target

/-- What is reached is known. -/
theorem Leads.knows (h : Leads c root names e) : c.entity? e.name = some e := by
  cases h with
  | start hroot => exact entity?_name hroot
  | cross _ _ htarget => exact entity?_name htarget

/-- Names lead on along a trail. -/
theorem Leads.trail (h : Leads c root names e) (htrail : Trail c e hops last) :
    Leads c root (names ++ hops.map (·.name)) last := by
  induction htrail generalizing names with
  | here e => rwa [List.map_nil, List.append_nil]
  | @cross e target last edge rest hedge htarget _ ih =>
    have hnext := ih (h.cross hedge htarget)
    rwa [List.append_assoc, List.singleton_append] at hnext

/-- Names lead where a trail over these names does. -/
theorem leads_iff : Leads c root names e ↔ ∃ start hops, c.entity? root = some start ∧
    Trail c start hops e ∧ hops.map (·.name) = names := by
  constructor
  · intro h
    induction h with
    | @start e hroot => exact ⟨e, [], hroot, .here e, rfl⟩
    | @cross names name e target edge _ hedge htarget ih =>
      obtain ⟨start, hops, hroot, htrail, rfl⟩ := ih
      have hname : edge.name = name := Entity.name_of_relationship? hedge
      refine ⟨start, hops ++ [edge], hroot, htrail.concat (hname ▸ hedge) htarget, ?_⟩
      rw [List.map_append, List.map_singleton, hname]
  · rintro ⟨start, hops, hroot, htrail, rfl⟩
    have hleads := Leads.trail (.start hroot) htrail
    rwa [List.nil_append] at hleads

/-- In a trail from the root, every relationship is crossed from the entity that the names before it lead
to. -/
theorem Trail.crossing {before after : List Relationship} (hroot : c.entity? root = some start)
    (h : Trail c start (before ++ edge :: after) last) :
    ∃ e target, Leads c root (before.map (·.name)) e ∧ e.relationship? edge.name = some edge ∧
      c.entity? edge.target = some target := by
  obtain ⟨mid, hbefore, hafter⟩ := h.split
  cases hafter with
  | cross hedge htarget _ =>
    exact ⟨mid, _, leads_iff.mpr ⟨start, before, hroot, hbefore, rfl⟩, hedge, htarget⟩

/-! ## Paths that resolve -/

/-- The relationships of a path lead from the root to an entity with its field. -/
structure Passable (c : Catalog) (root : String) (path : FieldPath) : Prop where
  start : ∃ e, c.entity? root = some e
  relationships : ∀ before name after, path.relationships = before ++ name :: after →
    ∃ e edge target, Leads c root before e ∧ e.relationship? name = some edge ∧
      c.entity? edge.target = some target
  field : ∃ e f, Leads c root path.relationships e ∧ e.field? path.field = some f

/-- What a path resolved to spells it back: there is one hop for each of its relationships, of this name,
from the entity reached so far to the one that is reached with it, and the field is the one of the last
entity that the path names. The entity that a hop leaves is its source, and the target of the hop before
it, if it was made under its name. -/
structure Spells (c : Catalog) (root : String) (path : FieldPath) (r : Resolution) : Prop where
  path_eq : r.path = path
  count : r.hops.length = path.depth
  names : r.hops.map (·.name) = path.relationships
  hops : ∀ before edge after, r.hops = before ++ edge :: after → ∃ e target,
    Leads c root (before.map (·.name)) e ∧ e.relationship? edge.name = some edge ∧
      (e.Made → edge.source = e.name) ∧ Leads c root ((before ++ [edge]).map (·.name)) target ∧
      edge.target = target.name
  chained : ∀ before edge next after, r.hops = before ++ edge :: next :: after → ∃ e,
    Leads c root ((before ++ [edge]).map (·.name)) e ∧ edge.target = e.name ∧
      (e.Made → next.source = edge.target)
  entity : Leads c root path.relationships r.entity
  field : r.entity.field? path.field = some r.field
  named : r.field.name = path.field

/-- A path resolves exactly if its relationships lead to an entity with its field. -/
theorem exists_resolve_iff :
    (∃ r, c.resolve root path = .ok r) ↔ Passable c root path := by
  constructor
  · rintro ⟨r, hr⟩
    obtain ⟨-, hnames, hfield, start, hroot, htrail⟩ := resolve_eq_ok_iff.mp hr
    refine ⟨⟨start, hroot⟩, fun before name after hsplit => ?_, r.entity, r.field, ?_, hfield⟩
    · rw [← hnames] at hsplit
      obtain ⟨hops, rest, hhops, rfl, hrest⟩ := List.map_eq_append_iff.mp hsplit
      obtain ⟨edge, others, rfl, rfl, -⟩ := List.map_eq_cons_iff.mp hrest
      rw [hhops] at htrail
      obtain ⟨e, target, he, hedge, htarget⟩ := htrail.crossing hroot
      exact ⟨e, edge, target, he, hedge, htarget⟩
    · exact leads_iff.mpr ⟨start, r.hops, hroot, htrail, hnames⟩
  · rintro ⟨-, -, e, f, he, hf⟩
    obtain ⟨start, hops, hroot, htrail, hnames⟩ := leads_iff.mp he
    exact ⟨⟨path, hops, e, f⟩, resolve_eq_ok_iff.mpr ⟨rfl, hnames, hf, start, hroot, htrail⟩⟩

/-- Every hop crosses a relationship of the entity that is reached so far. -/
theorem crossing_of_resolve (h : c.resolve root path = .ok r) {before after : List Relationship}
    (hsplit : r.hops = before ++ edge :: after) : ∃ e target, Leads c root (before.map (·.name)) e ∧
      e.relationship? edge.name = some edge ∧ c.entity? edge.target = some target := by
  obtain ⟨-, -, -, start, hroot, htrail⟩ := resolve_eq_ok_iff.mp h
  rw [hsplit] at htrail
  exact htrail.crossing hroot

/-- What a path resolves to spells it. -/
theorem spells_of_resolve (h : c.resolve root path = .ok r) : Spells c root path r := by
  obtain ⟨hpath, hnames, hfield, start, hroot, htrail⟩ := resolve_eq_ok_iff.mp h
  refine ⟨hpath, ?_, hnames, ?_, ?_, ?_, hfield, Entity.name_of_field? hfield⟩
  · rw [FieldPath.depth, ← hnames, List.length_map]
  · intro before edge after hsplit
    obtain ⟨e, target, he, hedge, htarget⟩ := crossing_of_resolve h hsplit
    refine ⟨e, target, he, hedge, fun hmade => hmade.source_eq hedge, ?_,
      (name_of_entity? htarget).symm⟩
    rw [List.map_append, List.map_singleton]
    exact he.cross hedge htarget
  · intro before edge next after hsplit
    rw [hsplit] at htrail
    obtain ⟨mid, hbefore, hafter⟩ := htrail.split
    cases hafter with
    | @cross _ target _ _ _ hedge htarget hrest =>
      have htarget' : target.name = edge.target := name_of_entity? htarget
      refine ⟨target, leads_iff.mpr ⟨start, before ++ [edge], hroot, hbefore.concat hedge htarget, rfl⟩,
        htarget'.symm, fun hmade => ?_⟩
      -- the next relationship is one of the entity that this one leads to
      cases hrest with
      | cross hnext _ _ => rw [hmade.source_eq hnext, htarget']
  · exact leads_iff.mpr ⟨start, r.hops, hroot, htrail, hnames⟩

/-! ## Paths that break off -/

/-- A name leads nowhere from an entity: it is no relationship, or one whose target is not known. -/
inductive Stops (c : Catalog) (path : FieldPath) (e : Entity) (name : String) : PlanError → Prop
  | relationship (hmissing : e.relationship? name = none) :
      Stops c path e name (.unknownRelationship path e.name name)
  | target {edge : Relationship} (hedge : e.relationship? name = some edge)
      (hmissing : c.entity? edge.target = none) : Stops c path e name (.unknownEntity edge.target)

/-- Where a path breaks off: at the root, at a relationship that leads nowhere from the entity that the
relationships before it lead to, or at the field, which the entity at the end does not have. -/
inductive Breaks (c : Catalog) (root : String) (path : FieldPath) : PlanError → Prop
  | root (hroot : c.entity? root = none) : Breaks c root path (.unknownEntity root)
  | relationship {before after : List String} {name : String} {e : Entity} {fault : PlanError}
      (hsplit : path.relationships = before ++ name :: after) (hbefore : Leads c root before e)
      (hstops : Stops c path e name fault) : Breaks c root path fault
  | field {e : Entity} (hall : Leads c root path.relationships e)
      (hmissing : e.field? path.field = none) :
      Breaks c root path (.unknownField path e.name path.field)

theorem requireEntity_eq_error_iff :
    c.requireEntity name = .error fault ↔ c.entity? name = none ∧ fault = .unknownEntity name := by
  unfold requireEntity
  cases c.entity? name with
  | none => exact ⟨fun h => ⟨rfl, (Except.error.inj h).symm⟩, fun h => congrArg _ h.2.symm⟩
  | some e => exact iff_of_false nofun fun h => nomatch h.1

theorem stops_of_none (h : e.relationship? name = none) :
    Stops c path e name fault ↔ fault = .unknownRelationship path e.name name := by
  constructor
  · intro hstops
    cases hstops with
    | relationship _ => rfl
    | target hedge _ =>
      rw [h] at hedge
      cases hedge
  · rintro rfl
    exact .relationship h

theorem stops_of_some (h : e.relationship? name = some edge) :
    Stops c path e name fault ↔ c.entity? edge.target = none ∧ fault = .unknownEntity edge.target := by
  constructor
  · intro hstops
    cases hstops with
    | relationship hmissing =>
      rw [h] at hmissing
      cases hmissing
    | target hedge hmissing =>
      obtain rfl := Option.some.inj (h.symm.trans hedge)
      exact ⟨hmissing, rfl⟩
  · rintro ⟨hmissing, rfl⟩
    exact .target h hmissing

/-- A trail over the first of some names ends at an entity from which the next one leads nowhere. -/
def Strands (c : Catalog) (path : FieldPath) (e : Entity) (names : List String) (fault : PlanError) :
    Prop :=
  ∃ hops mid name after, names = hops.map (·.name) ++ name :: after ∧ Trail c e hops mid ∧
    Stops c path mid name fault

theorem not_strands_nil : ¬Strands c path e [] fault := by
  rintro ⟨hops, mid, name, after, hsplit, -⟩
  exact List.append_ne_nil_of_right_ne_nil _ (List.cons_ne_nil name after) hsplit.symm

/-- That is from the first one, or after it from where that leads. -/
theorem strands_cons : Strands c path e (name :: names) fault ↔ Stops c path e name fault ∨
    ∃ edge target, e.relationship? name = some edge ∧ c.entity? edge.target = some target ∧
      Strands c path target names fault := by
  constructor
  · rintro ⟨hops, mid, next, after, hsplit, htrail, hstops⟩
    cases htrail with
    | here _ =>
      obtain ⟨rfl, -⟩ := List.cons.inj hsplit
      exact Or.inl hstops
    | cross hedge htarget hrest =>
      obtain ⟨rfl, rfl⟩ := List.cons.inj hsplit
      exact Or.inr ⟨_, _, hedge, htarget, _, mid, next, after, rfl, hrest, hstops⟩
  · rintro (hstops | ⟨edge, target, hedge, htarget, hops, mid, next, after, rfl, hrest, hstops⟩)
    · exact ⟨[], e, name, names, rfl, .here e, hstops⟩
    · obtain rfl := Entity.name_of_relationship? hedge
      exact ⟨edge :: hops, mid, next, after, rfl, .cross hedge htarget hrest, hstops⟩

/-- Following names from a known entity fails exactly where they strand. -/
theorem follow_eq_error_iff (he : c.entity? e.name = some e) :
    c.follow path e names = .error fault ↔ Strands c path e names fault := by
  induction names generalizing e with
  | nil => exact iff_of_false nofun not_strands_nil
  | cons first names ih =>
    rw [follow, relationship?_eq he, strands_cons]
    cases hfirst : e.relationship? first with
    | none =>
      rw [stops_of_none hfirst]
      constructor
      · intro h
        exact Or.inl (Except.error.inj h).symm
      · rintro (rfl | ⟨_, _, ⟨⟩, _⟩)
        rfl
    | some edge =>
      show (c.requireEntity edge.target >>= fun target => c.follow path target names >>= fun found =>
        pure (edge :: found.1, found.2)) = .error fault ↔ _
      rw [bind_eq_error, requireEntity_eq_error_iff, stops_of_some hfirst]
      refine or_congr_right ?_
      simp only [bind_eq_error, requireEntity_eq_ok_iff]
      constructor
      · rintro ⟨target, htarget, hrest | ⟨_, -, ⟨⟩⟩⟩
        exact ⟨edge, target, rfl, htarget, (ih (entity?_name htarget)).mp hrest⟩
      · rintro ⟨_, target, ⟨⟩, htarget, hrest⟩
        exact ⟨target, htarget, Or.inl ((ih (entity?_name htarget)).mpr hrest)⟩

/-- A path fails to resolve exactly where it breaks off. -/
theorem resolve_eq_error_iff : c.resolve root path = .error fault ↔ Breaks c root path fault := by
  unfold resolve
  rw [bind_eq_error, requireEntity_eq_error_iff]
  simp only [bind_eq_error, requireEntity_eq_ok_iff]
  constructor
  · rintro (⟨hroot, rfl⟩ | ⟨start, hroot, hfollow | ⟨⟨hops, last⟩, hfollow, hfield⟩⟩)
    · exact .root hroot
    · obtain ⟨hops, mid, name, after, hsplit, htrail, hstops⟩ :=
        (follow_eq_error_iff (entity?_name hroot)).mp hfollow
      exact .relationship hsplit (leads_iff.mpr ⟨start, hops, hroot, htrail, rfl⟩) hstops
    · obtain ⟨htrail, hnames⟩ := (follow_eq_ok_iff (entity?_name hroot)).mp hfollow
      have hleads : Leads c root path.relationships last :=
        leads_iff.mpr ⟨start, hops, hroot, htrail, hnames⟩
      simp only [field?_eq hleads.knows] at hfield
      cases hmissing : last.field? path.field with
      | none =>
        rw [hmissing] at hfield
        cases hfield
        exact .field hleads hmissing
      | some f =>
        rw [hmissing] at hfield
        cases hfield
  · intro h
    cases h with
    | root hroot => exact Or.inl ⟨hroot, rfl⟩
    | relationship hsplit hbefore hstops =>
      obtain ⟨start, hops, hroot, htrail, rfl⟩ := leads_iff.mp hbefore
      exact Or.inr ⟨start, hroot, Or.inl ((follow_eq_error_iff (entity?_name hroot)).mpr
        ⟨hops, _, _, _, hsplit, htrail, hstops⟩)⟩
    | @field last hall hmissing =>
      obtain ⟨start, hops, hroot, htrail, hnames⟩ := leads_iff.mp hall
      refine Or.inr ⟨start, hroot, Or.inr ⟨(hops, last), ?_, ?_⟩⟩
      · exact (follow_eq_ok_iff (entity?_name hroot)).mpr ⟨htrail, hnames⟩
      · simp only [field?_eq hall.knows, hmissing]

/-- In a catalog that was built, no relationship leads to an unknown entity, so it is the root that is
unknown. -/
theorem Breaks.root_of_build {entities : List Entity} (hbuild : build entities = .ok c)
    (h : Breaks c root path (.unknownEntity name)) : name = root ∧ c.entity? root = none := by
  cases h with
  | root hroot => exact ⟨rfl, hroot⟩
  | relationship _ hbefore hstops =>
    cases hstops with
    | target hedge hmissing =>
      obtain ⟨target, htarget, -⟩ := joins_of_build hbuild hbefore.knows hedge
      rw [hmissing] at htarget
      cases htarget

/-- In a catalog that the program loads, every hop has the entity reached so far as its source. -/
theorem Spells.source_eq (h : Spells c root path r) (hloaded : c.Loaded)
    {before after : List Relationship} (hsplit : r.hops = before ++ edge :: after) :
    ∃ e, Leads c root (before.map (·.name)) e ∧ edge.source = e.name := by
  obtain ⟨e, -, he, -, hsource, -⟩ := h.hops before edge after hsplit
  exact ⟨e, he, hsource (hloaded.made (mem_of_entity? he.knows))⟩

end Catalog

namespace Ferries

/-- A harbour, from which a ferry goes to the next one. -/
def harbour : Entity :=
  ((Entity.ofName "harbour").addField "id" .integer
    |>.addField "next_id" .integer).addLink "ferry" ⟨"harbour", "next_id", "id", .one⟩

/-- A harbour with a bridge to a mainland that nobody has described. -/
def bridged : Entity := harbour.addLink "bridge" ⟨"mainland", "id", "harbour_id", .many⟩

/-- Around by two ferries. -/
def around : FieldPath := ⟨["ferry", "ferry"], "id", by decide⟩

/-- Over the bridge after one ferry. -/
def across : FieldPath := ⟨["ferry", "bridge", "ferry"], "id", by decide⟩

theorem made_bridged : bridged.Made :=
  .addLink _ _ (.addLink _ _ (.addField _ _ (.addField _ _ (.ofName "harbour"))))

/-- A text in a catalog file. -/
def word (s : String) : Document.Node := .scalar (.text s)

/-- The harbour and its ferry as a catalog file describes them. -/
def charted : Document where
  format := .json
  root := .ofMembers [("entities", .ofMembers [("harbour", .ofMembers [
    ("fields", .ofMembers [("id", word "integer"), ("next_id", word "integer")]),
    ("relationships", .ofMembers [("ferry", .ofMembers [("target", word "harbour"),
      ("source_column", word "next_id")])])])])]

theorem loaded_harbour : Catalog.Loaded ⟨[harbour]⟩ := .document (d := charted) rfl

/-- A harbour that is renamed when it has its ferry keeps the old name as the source of the ferry. -/
example : (Entity.relationship? { harbour with name := "port" } "ferry").map (·.source) =
    some "harbour" := by
  decide

end Ferries

end DottedQuery
