import OrmMapping.Proofs.Document.References
import OrmMapping.Proofs.Roster.Lookup
import OrmMapping.Report

/-!
# Resolved references

Resolution goes through the parent of an entity and then its properties in order, and looks up each
reference in the datasource of the entity. It stops at the first one that leads nowhere; otherwise
it writes down the names that it finds, and changes nothing else.

* `MappedEntity.withReferents`: an entity with the names that its references lead to;
* `Roster.resolvePlacement_eq_ok_iff`, `Roster.resolveProperty_eq_ok_iff`: one reference;
* `Roster.resolveProperties_eq_ok_iff`, `Roster.resolveProperties_eq_error_iff`: properties in
  order;
* `Roster.resolve_eq_ok_iff`, `Roster.resolve_eq_error_iff`: a whole entity;
* `Roster.StandsFor`: what a reference in a document has to do with the entity that it means;
* `Roster.references_resolve`: every reference of a resolved entity stands for a candidate.
-/

namespace OrmMapping

open Layout

/-! ## Entities with referents -/

/-- The place of a subclass with the name that its parent is found under. -/
def Placement.withReferent (find : String → Option String) (p : Placement) : Placement :=
  { p with parentEntity := find p.parent }

/-- The property with the name that its target is found under. -/
def MappedProperty.withReferent (find : String → Option String) (p : MappedProperty) :
    MappedProperty :=
  { p with association := p.association.map fun a => { a with targetEntity := find a.target } }

/-- The entity with the names that its parent and the targets of its relationships are found
under. -/
def MappedEntity.withReferents (find : String → Option String) (e : MappedEntity) : MappedEntity :=
  { e with
    placement := e.placement.map (·.withReferent find)
    properties := e.properties.map (·.withReferent find) }

/-- A property that is no relationship has no referent to write down. -/
theorem MappedProperty.withReferent_of_none {find : String → Option String} {p : MappedProperty}
    (h : p.association = none) : p.withReferent find = p := by
  cases p
  cases h
  rfl

namespace Roster

variable {r : Roster} {e e' : MappedEntity} {p p' : MappedProperty}
  {ps ps' : List MappedProperty} {fault : MappingError}

/-- The name that a reference of an entity leads to. -/
def findFor (r : Roster) (e : MappedEntity) (reference : String) : Option String :=
  r.lookup reference e.datasource

/-- A property that is a relationship leads to an entity. -/
def Reaches (r : Roster) (e : MappedEntity) (p : MappedProperty) : Prop :=
  ∀ a ∈ p.association, (r.findFor e a.target).isSome = true

/-! ## One reference -/

/-- A subclass is resolved when its parent is found, and keeps all but the referent. -/
theorem resolvePlacement_eq_ok_iff {p p' : Placement} :
    r.resolvePlacement e p = .ok p' ↔
      (r.findFor e p.parent).isSome = true ∧ p' = p.withReferent (r.findFor e) := by
  simp only [resolvePlacement, Placement.withReferent, findFor]
  cases r.lookup p.parent e.datasource with
  | none => simp
  | some parent => simp [eq_comm]

/-- A subclass whose parent is not found fails with the parent as it is written, and without a
property. -/
theorem resolvePlacement_eq_error_iff {p : Placement} :
    r.resolvePlacement e p = .error fault ↔
      r.findFor e p.parent = none ∧ fault = .unknownEntity e.entityName none p.parent := by
  simp only [resolvePlacement, findFor]
  cases r.lookup p.parent e.datasource with
  | none => simp [eq_comm]
  | some parent => simp

/-- A property that is no relationship has nothing to find. -/
theorem reaches_of_none (h : p.association = none) : r.Reaches e p := by
  simp [Reaches, h]

/-- A property that is no relationship is resolved as it is. -/
theorem resolveProperty_of_none (h : p.association = none) : r.resolveProperty e p = .ok p := by
  rw [resolveProperty, h]

/-- A property is resolved when its target is found, or when it is no relationship, and keeps all
but the referent. -/
theorem resolveProperty_eq_ok_iff :
    r.resolveProperty e p = .ok p' ↔ r.Reaches e p ∧ p' = p.withReferent (r.findFor e) := by
  cases hassociation : p.association with
  | none =>
    rw [resolveProperty_of_none hassociation, MappedProperty.withReferent_of_none hassociation]
    rw [Except.ok.injEq, eq_comm]
    exact (and_iff_right (reaches_of_none hassociation)).symm
  | some a =>
    simp only [resolveProperty, Reaches, MappedProperty.withReferent, findFor, hassociation,
      Option.map_some, Option.mem_some_iff, forall_eq']
    cases r.lookup a.target e.datasource with
    | none => simp
    | some target => simp [eq_comm]

/-- A property fails when it is a relationship whose target is not found, and the error names
both. -/
theorem resolveProperty_eq_error_iff :
    r.resolveProperty e p = .error fault ↔
      ∃ a, p.association = some a ∧ r.findFor e a.target = none ∧
        fault = .unknownEntity e.entityName (some p.name) a.target := by
  cases hassociation : p.association with
  | none => simp [resolveProperty_of_none hassociation]
  | some a =>
    simp only [resolveProperty, findFor, hassociation, Option.some.injEq, exists_eq_left']
    cases r.lookup a.target e.datasource with
    | none => simp [eq_comm]
    | some target => simp

/-! ## Properties in order -/

/-- Properties are resolved when each of them is, each by itself. -/
theorem resolveProperties_eq_ok_iff :
    r.resolveProperties e ps = .ok ps' ↔
      (∀ p ∈ ps, r.Reaches e p) ∧ ps' = ps.map (·.withReferent (r.findFor e)) := by
  induction ps generalizing ps' with
  | nil => simp [resolveProperties, eq_comm]
  | cons p rest ih =>
    simp only [resolveProperties, bind_eq_ok, pure_eq_ok, resolveProperty_eq_ok_iff, ih,
      List.forall_mem_cons, List.map_cons]
    constructor
    · rintro ⟨first, ⟨hfirst, rfl⟩, others, ⟨hrest, rfl⟩, rfl⟩
      exact ⟨⟨hfirst, hrest⟩, rfl⟩
    · rintro ⟨⟨hfirst, hrest⟩, rfl⟩
      exact ⟨_, ⟨hfirst, rfl⟩, _, ⟨hrest, rfl⟩, rfl⟩

/-- An error is that of the first property, or that of the rest when the first is resolved. -/
theorem resolveProperties_cons_eq_error_iff :
    r.resolveProperties e (p :: ps) = .error fault ↔
      r.resolveProperty e p = .error fault ∨
      r.Reaches e p ∧ r.resolveProperties e ps = .error fault := by
  simp only [resolveProperties, bind_eq_error, resolveProperty_eq_ok_iff]
  constructor
  · rintro (hfirst | ⟨first, ⟨hreaches, -⟩, hrest | ⟨others, -, hpure⟩⟩)
    · exact Or.inl hfirst
    · exact Or.inr ⟨hreaches, hrest⟩
    · -- putting the results together does not fail
      cases hpure
  · rintro (hfirst | ⟨hreaches, hrest⟩)
    · exact Or.inl hfirst
    · exact Or.inr ⟨_, ⟨hreaches, rfl⟩, Or.inl hrest⟩

/-- An error is that of the first property that leads nowhere, with only properties before it that
lead somewhere. -/
theorem resolveProperties_eq_error_iff :
    r.resolveProperties e ps = .error fault ↔
      ∃ before p after, ps = before ++ p :: after ∧ (∀ q ∈ before, r.Reaches e q) ∧
        r.resolveProperty e p = .error fault := by
  induction ps with
  | nil => simp [resolveProperties]
  | cons p rest ih =>
    rw [resolveProperties_cons_eq_error_iff, ih]
    constructor
    · rintro (hfirst | ⟨hreaches, before, q, after, rfl, hbefore, hq⟩)
      · exact ⟨[], p, rest, rfl, by simp, hfirst⟩
      · exact ⟨p :: before, q, after, rfl, List.forall_mem_cons.mpr ⟨hreaches, hbefore⟩, hq⟩
    · rintro ⟨before, q, after, hsplit, hbefore, hq⟩
      cases before with
      | nil =>
        obtain ⟨rfl, rfl⟩ := List.cons.inj hsplit
        exact Or.inl hq
      | cons first before =>
        obtain ⟨rfl, rfl⟩ := List.cons.inj hsplit
        obtain ⟨hreaches, hbefore⟩ := List.forall_mem_cons.mp hbefore
        exact Or.inr ⟨hreaches, before, q, after, rfl, hbefore, hq⟩

/-- Leaving out properties that are no relationships (`hdropped`) does not change the error. -/
theorem resolveProperties_filter_eq_error_iff {keep : MappedProperty → Bool}
    (hdropped : ∀ p ∈ ps, keep p = false → p.association = none) :
    r.resolveProperties e (ps.filter keep) = .error fault ↔
      r.resolveProperties e ps = .error fault := by
  induction ps with
  | nil => rfl
  | cons p rest ih =>
    obtain ⟨hp, hrest⟩ := List.forall_mem_cons.mp hdropped
    rw [resolveProperties_cons_eq_error_iff, ← ih hrest]
    cases hkeep : keep p with
    | true => rw [List.filter_cons_of_pos hkeep, resolveProperties_cons_eq_error_iff]
    | false =>
      have hnone := hp hkeep
      rw [List.filter_cons_of_neg (by simp [hkeep]), resolveProperty_of_none hnone]
      simp [reaches_of_none hnone]

/-! ## Whole entities -/

/-- Resolution as two steps, the parent and then the properties, of which each can be inverted by
itself. -/
theorem resolve_eq (r : Roster) (e : MappedEntity) :
    r.resolve e =
      (e.placement.elim (.ok none) fun p => (r.resolvePlacement e p).map some) >>= fun placement =>
        (r.resolveProperties e e.properties).map fun properties =>
          { e with placement, properties } := by
  unfold resolve
  cases e.placement with
  | none =>
    cases r.resolveProperties e e.properties <;> rfl
  | some p =>
    cases r.resolvePlacement e p with
    | error fault => rfl
    | ok p' => cases r.resolveProperties e e.properties <;> rfl

/-- Resolution succeeds exactly when every reference leads somewhere, and changes what the
references lead to and nothing else. -/
theorem resolve_eq_ok_iff :
    r.resolve e = .ok e' ↔
      (∀ p ∈ e.placement, (r.findFor e p.parent).isSome = true) ∧
      (∀ p ∈ e.properties, r.Reaches e p) ∧ e' = e.withReferents (r.findFor e) := by
  simp only [resolve_eq, bind_eq_ok, map_eq_ok, resolveProperties_eq_ok_iff,
    MappedEntity.withReferents]
  cases e.placement with
  | none =>
    simp only [Option.elim_none, Option.not_mem_none, false_implies, implies_true, true_and,
      Option.map_none]
    constructor
    · rintro ⟨_, ⟨⟩, _, ⟨hproperties, rfl⟩, rfl⟩
      exact ⟨hproperties, rfl⟩
    · rintro ⟨hproperties, rfl⟩
      exact ⟨none, rfl, _, ⟨hproperties, rfl⟩, rfl⟩
  | some p =>
    simp only [Option.elim_some, map_eq_ok, resolvePlacement_eq_ok_iff, Option.mem_some_iff,
      forall_eq', Option.map_some]
    constructor
    · rintro ⟨_, ⟨_, ⟨hparent, rfl⟩, rfl⟩, _, ⟨hproperties, rfl⟩, rfl⟩
      exact ⟨hparent, hproperties, rfl⟩
    · rintro ⟨hparent, hproperties, rfl⟩
      exact ⟨_, ⟨_, ⟨hparent, rfl⟩, rfl⟩, _, ⟨hproperties, rfl⟩, rfl⟩

/-- Resolution fails for the parent, or for the properties when the parent is found. -/
theorem resolve_eq_error_iff :
    r.resolve e = .error fault ↔
      (∃ p ∈ e.placement, r.findFor e p.parent = none ∧
        fault = .unknownEntity e.entityName none p.parent) ∨
      (∀ p ∈ e.placement, (r.findFor e p.parent).isSome = true) ∧
        r.resolveProperties e e.properties = .error fault := by
  simp only [resolve_eq, bind_eq_error, map_eq_error]
  cases e.placement with
  -- without a parent only the properties can fail
  | none => simp
  | some p =>
    simp only [Option.elim_some, map_eq_error, map_eq_ok, resolvePlacement_eq_error_iff,
      resolvePlacement_eq_ok_iff, Option.mem_some_iff, forall_eq', exists_eq_left']
    refine or_congr_right ⟨?_, ?_⟩
    · rintro ⟨_, ⟨_, ⟨hparent, -⟩, -⟩, hproperties⟩
      exact ⟨hparent, hproperties⟩
    · rintro ⟨hparent, hproperties⟩
      exact ⟨_, ⟨_, ⟨hparent, rfl⟩, rfl⟩, hproperties⟩

/-- Resolution fails with `unknownEntity` for the entity, and with nothing else. -/
theorem unknownEntity_of_resolve (h : r.resolve e = .error fault) :
    ∃ property target, fault = .unknownEntity e.entityName property target := by
  rcases resolve_eq_error_iff.mp h with ⟨p, -, -, rfl⟩ | ⟨-, hproperties⟩
  · exact ⟨none, p.parent, rfl⟩
  · obtain ⟨-, p, -, -, -, hp⟩ := resolveProperties_eq_error_iff.mp hproperties
    obtain ⟨a, -, -, rfl⟩ := resolveProperty_eq_error_iff.mp hp
    exact ⟨some p.name, a.target, rfl⟩

/-! ## References -/

/-- A reference in a document stands for an entity of a datasource when it is its name. An entity
with the empty name cannot be written so; a reference to it stays as its descriptor has it. -/
def StandsFor (r : Roster) (datasource : Option String) (reference name : String) : Prop :=
  reference = name ∨ (name = "" ∧ r.lookup reference datasource = some "")

/-- A reference that is written as what was found, or as it was where the name is empty, stands for
the entity that was found. -/
theorem standsFor_of_lookup {datasource : Option String} {written name : String}
    (hfound : r.lookup written datasource = some name) :
    r.StandsFor datasource ((nonEmpty? (some name)).getD written) name := by
  rw [nonEmpty?_some]
  by_cases hname : name = ""
  · subst hname
    exact Or.inr ⟨rfl, hfound⟩
  · rw [if_neg hname]
    exact Or.inl rfl

/-- Every reference of a resolved entity stands for a name that was found in the datasource of the
entity. -/
theorem references_resolve (h : r.resolve e = .ok e') {reference : String}
    (href : reference ∈ e'.references) :
    ∃ written name, r.lookup written e.datasource = some name ∧
      r.StandsFor e.datasource reference name := by
  obtain ⟨hparent, hproperties, rfl⟩ := resolve_eq_ok_iff.mp h
  have hstands : ∀ written, (r.findFor e written).isSome = true →
      ∃ name, r.lookup written e.datasource = some name ∧
        r.StandsFor e.datasource ((nonEmpty? (r.findFor e written)).getD written) name := by
    intro written hsome
    obtain ⟨name, hfound⟩ := Option.isSome_iff_exists.mp hsome
    rw [hfound]
    exact ⟨name, hfound, standsFor_of_lookup hfound⟩
  rcases List.mem_append.mp href with hplaced | htarget
  · -- the parent of a subclass
    obtain ⟨p', hp', rfl⟩ := List.mem_map.mp hplaced
    obtain ⟨p, hp, rfl⟩ := Option.map_eq_some_iff.mp (Option.mem_toList.mp hp')
    exact ⟨p.parent, hstands p.parent (hparent p hp)⟩
  · -- the target of a relationship
    obtain ⟨p', hp', hassociation⟩ := List.mem_flatMap.mp htarget
    obtain ⟨p, hp, rfl⟩ := List.mem_map.mp hp'
    obtain ⟨a', ha', hreference⟩ := List.mem_flatMap.mp hassociation
    obtain ⟨a, ha, rfl⟩ := Option.map_eq_some_iff.mp (Option.mem_toList.mp ha')
    rw [eq_entityRef_of_mem hreference]
    exact ⟨a.target, hstands a.target (hproperties p hp a ha)⟩

end Roster

end OrmMapping
