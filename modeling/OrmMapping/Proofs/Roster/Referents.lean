import OrmMapping.Proofs.Entity.Soundness

/-!
# The referents of a mapped class

A class that is mapped refers to others as its descriptor has them written. Resolution against the
roster of a batch succeeds when the parent and the target of every relationship can be looked up,
and replaces what was written by what was found, in the entity and in its document. Identifiers and
versions are not gone through: they refer to nothing.

* `MappedEntity.Unresolved`: an entity with its references as they were written;
* `Roster.resolve_again`: what has been resolved is not changed by resolving it again;
* `Roster.references_withReferents`: the references in the document of a resolved entity;
* `Roster.Settles`: how resolution ends for an entity with these properties, in order;
* `Roster.settles_of_ofDescriptor`: how it ends for every mapped class.
-/

namespace OrmMapping

open Layout

variable {d : Descriptor} {fallback : Option String} {e e' : MappedEntity} {p : MappedProperty}
  {ps : List MappedProperty} {r : Roster} {find : String → Option String}

/-! ## References as they are written -/

/-- No reference of the entity has been resolved. -/
structure MappedEntity.Unresolved (e : MappedEntity) : Prop where
  placement : ∀ p ∈ e.placement, p.parentEntity = none
  properties : ∀ p ∈ e.properties, ∀ a ∈ p.association, a.targetEntity = none

/-- A class that was mapped (`h`) has its references as its descriptor has them written. -/
theorem MappedEntity.unresolved_of_ofDescriptor (h : (ofDescriptor d fallback).outcome = .ok e) :
    e.Unresolved := by
  refine ⟨fun p hp => ?_, fun p hp => ?_⟩
  · obtain ⟨parent, -, hmade⟩ := placement_of_ofDescriptor h hp
    exact hmade.unresolved
  · exact forall_allProperties_of_ofDescriptor
      (fun _ _ _ _ => MappedProperty.targetEntity_of_ofDecl) h p
      (mem_allProperties_of_mem_properties hp)

/-! ## Resolving again -/

/-- Looking references up does not change how they are written, so doing it again gives the same. -/
theorem withReferents_withReferents (e : MappedEntity) (find : String → Option String) :
    (e.withReferents find).withReferents find = e.withReferents find := by
  have hplacement : ∀ p : Placement,
      (p.withReferent find).withReferent find = p.withReferent find := fun _ => rfl
  have hproperty : ∀ p : MappedProperty,
      (p.withReferent find).withReferent find = p.withReferent find := by
    intro p
    simp only [MappedProperty.withReferent, Option.map_map, Function.comp_def]
  simp only [MappedEntity.withReferents, Option.map_map, List.map_map, Function.comp_def,
    hplacement, hproperty]

namespace Roster

/-- A property that leads to an entity still does once its reference was looked up. -/
theorem reaches_withReferent (h : r.Reaches e p) : r.Reaches e (p.withReferent find) := by
  intro a' ha'
  obtain ⟨a, ha, rfl⟩ := Option.map_eq_some_iff.mp ha'
  exact h a ha

/-- A resolved entity keeps its references as they are written beside those that were found, and
looks the same ones up again. -/
theorem resolve_again (h : r.resolve e = .ok e') : r.resolve e' = .ok e' := by
  obtain ⟨hparent, hproperties, rfl⟩ := resolve_eq_ok_iff.mp h
  have hfind : r.findFor (e.withReferents (r.findFor e)) = r.findFor e := rfl
  refine resolve_eq_ok_iff.mpr ⟨fun p' hp' => ?_, fun p' hp' => ?_, ?_⟩
  · obtain ⟨p, hp, rfl⟩ := Option.map_eq_some_iff.mp hp'
    exact hparent p hp
  · obtain ⟨p, hp, rfl⟩ := List.mem_map.mp hp'
    exact reaches_withReferent (hproperties p hp)
  · rw [hfind, withReferents_withReferents]

/-! ## References in a document -/

section Written

variable (hnamed : ∀ written, ∀ name ∈ find written, name ≠ "")

include hnamed

/-- Where only names are found (`hnamed`), a reference that leads to one is written as that name. -/
theorem some_getD_nonEmpty? {written : String} (hfound : (find written).isSome = true) :
    some ((nonEmpty? (find written)).getD written) = find written := by
  obtain ⟨name, hname⟩ := Option.isSome_iff_exists.mp hfound
  rw [hname, nonEmpty?_some, if_neg (hnamed written name hname), Option.getD_some]

/-- The parent of a subclass is written as the name that is found for it. -/
theorem entityRef_withReferent {p : Placement} (hunresolved : p.parentEntity = none)
    (hfound : (find p.parent).isSome = true) :
    some (p.withReferent find).entityRef = find p.entityRef := by
  have hwritten : p.entityRef = p.parent := by
    rw [Placement.entityRef, hunresolved]
    rfl
  rw [hwritten]
  exact some_getD_nonEmpty? hnamed hfound

/-- The targets of a relationship are written as the names that are found for them. `hunresolved`
says that `entityRef` was the written one before. -/
theorem associationReferences_withReferent {a : Association} (hunresolved : a.targetEntity = none)
    (hfound : (find a.target).isSome = true) :
    (associationReferences { a with targetEntity := find a.target }).map some =
      (associationReferences a).map find := by
  have hwritten : a.entityRef = a.target := by
    rw [Association.entityRef, hunresolved]
    rfl
  unfold associationReferences
  split
  · rfl
  · rw [List.map_singleton, List.map_singleton, hwritten]
    exact congrArg (fun reference => [reference]) (some_getD_nonEmpty? hnamed hfound)

/-- Every reference of a resolved entity is the name that the reference written in its place leads
to. `hparent` and `htargets` say that each leads somewhere, `hunresolved` that none was resolved
before. -/
theorem references_withReferents (hunresolved : e.Unresolved)
    (hparent : ∀ p ∈ e.placement, (find p.parent).isSome = true)
    (htargets : ∀ p ∈ e.properties, ∀ a ∈ p.association, (find a.target).isSome = true) :
    (e.withReferents find).references.map some = e.references.map find := by
  -- the parent first, then the targets property by property
  have hplaced : ((e.withReferents find).placement.toList.map (·.entityRef)).map some =
      (e.placement.toList.map (·.entityRef)).map find := by
    unfold MappedEntity.withReferents
    cases hplacement : e.placement with
    | none => rfl
    | some p =>
      exact congrArg (fun reference => [reference]) (entityRef_withReferent hnamed
        (hunresolved.placement p hplacement) (hparent p hplacement))
  have hrelated : ((e.withReferents find).properties.flatMap fun p =>
        p.association.toList.flatMap associationReferences).map some =
      (e.properties.flatMap fun p => p.association.toList.flatMap associationReferences).map
        find := by
    rw [List.map_flatMap, List.map_flatMap]
    unfold MappedEntity.withReferents
    rw [List.flatMap_map]
    refine List.flatMap_congr fun p hp => ?_
    unfold MappedProperty.withReferent
    cases hassociation : p.association with
    | none => rfl
    | some a =>
      simp only [Option.map_some, Option.toList_some, List.flatMap_singleton]
      exact associationReferences_withReferent hnamed (hunresolved.properties p hp a hassociation)
        (htargets p hp a hassociation)
  rw [MappedEntity.references, MappedEntity.references, List.map_append, List.map_append, hplaced,
    hrelated]

end Written

/-- Where all candidates have entity names (`hnamed`), only such names are found. -/
theorem ne_empty_of_findFor {cs : List Candidate} (h : r.Represents cs)
    (hnamed : ∀ c ∈ cs, c.entityName ≠ "") (written : String) :
    ∀ name ∈ r.findFor e written, name ≠ "" := by
  intro name hname
  obtain ⟨c, hc, -, rfl⟩ := h.exists_of_lookup hname
  exact hnamed c hc

/-! ## How resolution ends -/

/-- How resolution ends for an entity that is made of these properties, in the order in which they
are declared. It reads the roster, and gives none back. -/
structure Settles (r : Roster) (e : MappedEntity) (ps : List MappedProperty) : Prop where
  succeeds : (∃ e', r.resolve e = .ok e') ↔
    (∀ p ∈ e.placement, (r.findFor e p.parent).isSome = true) ∧
      ∀ p ∈ e.allProperties, r.Reaches e p
  fails : ∀ fault, r.resolve e = .error fault ↔
    (∃ p ∈ e.placement, r.findFor e p.parent = none ∧
      fault = .unknownEntity e.entityName none p.parent) ∨
    (∀ p ∈ e.placement, (r.findFor e p.parent).isSome = true) ∧
      ∃ before p after a, ps = before ++ p :: after ∧ (∀ q ∈ before, r.Reaches e q) ∧
        p.association = some a ∧ r.findFor e a.target = none ∧
        fault = .unknownEntity e.entityName (some p.name) a.target
  changes : ∀ e', r.resolve e = .ok e' → e' = e.withReferents (r.findFor e)
  again : ∀ e', r.resolve e = .ok e' → r.resolve e' = .ok e'
  written : (∀ c ∈ r.candidates, c.entityName ≠ "") →
    ∀ e', r.resolve e = .ok e' → ∀ quoteAll,
      (e'.element quoteAll).references.map some =
        (e.element quoteAll).references.map (r.findFor e)

/-- Identifiers and versions do not count for resolution: by `h` they are no relationships. -/
theorem forall_reaches_iff (h : e.Sound) :
    (∀ p ∈ e.allProperties, r.Reaches e p) ↔ ∀ p ∈ e.properties, r.Reaches e p := by
  rw [MappedEntity.allProperties, ← List.append_assoc, List.forall_mem_append]
  exact and_iff_right fun p hp => reaches_of_none (h.identity p hp)

/-- The first property of the entity that leads nowhere is the first among the declared ones (`ps`):
what `harranged` leaves out of its properties is no relationship. -/
theorem resolveProperties_of_arranges {fault : MappingError} (harranged : e.Arranges ps)
    (hcoherent : ∀ p ∈ ps, p.Coherent) :
    r.resolveProperties e e.properties = .error fault ↔
      ∃ before p after a, ps = before ++ p :: after ∧ (∀ q ∈ before, r.Reaches e q) ∧
        p.association = some a ∧ r.findFor e a.target = none ∧
        fault = .unknownEntity e.entityName (some p.name) a.target := by
  -- what is left out of the properties is no relationship
  rw [harranged.properties,
    resolveProperties_filter_eq_error_iff fun p hp => (hcoherent p hp).association_eq_none,
    resolveProperties_eq_error_iff]
  simp only [resolveProperty_eq_error_iff, exists_and_left]

/-- Resolution of a mapped class against the roster of any registrations. It succeeds exactly when
the parent and all targets can be looked up in the datasource of the class, and otherwise names the
parent, or else the first declared property whose target cannot. Nothing is changed but what the
references lead to; resolving once more changes nothing; and where entities have names, every
reference in the document is the name that was found for it. -/
theorem settles_of_ofDescriptor (calls : List Candidate)
    (h : (MappedEntity.ofDescriptor d fallback).outcome = .ok e) :
    ∃ ps, d.mappedProperties e.entityName = .ok ps ∧ e.Arranges ps ∧
      (({} : Roster).registerAll calls).Settles e ps := by
  obtain ⟨ps, hps, harranged⟩ := MappedEntity.exists_arranges_of_ofDescriptor h
  have hcoherent := MappedEntity.coherent_of_mem_mappedProperties hps
  have hsound := MappedEntity.sound_of_ofDescriptor h
  have hunresolved := MappedEntity.unresolved_of_ofDescriptor h
  have hrepresents := represents_empty.registerAll calls
  refine ⟨ps, hps, harranged, ?_⟩
  constructor
  case succeeds =>
    -- resolution goes through the properties only, and the others lead nowhere that counts
    rw [forall_reaches_iff hsound]
    constructor
    · rintro ⟨e', he'⟩
      obtain ⟨hparent, hproperties, -⟩ := resolve_eq_ok_iff.mp he'
      exact ⟨hparent, hproperties⟩
    · rintro ⟨hparent, hproperties⟩
      exact ⟨_, resolve_eq_ok_iff.mpr ⟨hparent, hproperties, rfl⟩⟩
  case fails =>
    intro fault
    rw [resolve_eq_error_iff, resolveProperties_of_arranges harranged hcoherent]
  case changes =>
    intro e' he'
    exact (resolve_eq_ok_iff.mp he').2.2
  case again =>
    intro e' he'
    exact resolve_again he'
  case written =>
    intro hnamed e' he' quoteAll
    obtain ⟨hparent, hproperties, rfl⟩ := resolve_eq_ok_iff.mp he'
    rw [hrepresents.candidates] at hnamed
    rw [MappedEntity.references_element, MappedEntity.references_element]
    exact references_withReferents (ne_empty_of_findFor hrepresents hnamed) hunresolved hparent
      hproperties

/-- Pets, which belong to a human. -/
def petDescriptor : Descriptor where
  own := {
    name := "Pet"
    annotations := [("persistent", .null)]
    properties := [
      { name := "id", annotations := [("fieldtype", .str "id")] },
      { name := "owner",
        annotations := [("fieldtype", .str "many-to-one"), ("cfc", .str "zoo.Human")] }] }

/-- A reference to `zoo.Human` becomes one to `Person`, the entity that the class `Human` is mapped
to, and resolving again changes nothing. -/
theorem settles_of_ofDescriptor_pet :
    ∃ e e', (MappedEntity.ofDescriptor petDescriptor none).outcome = .ok e ∧
      (e.element false).references = ["zoo.Human"] ∧
      (({} : Roster).registerAll [owner, person]).resolve e = .ok e' ∧
      (({} : Roster).registerAll [owner, person]).resolve e' = .ok e' ∧
      (e'.element false).references = ["Person"] := by
  have hmapped : (MappedEntity.ofDescriptor petDescriptor none).outcome.toOption.map (fun e =>
      ((e.references, e.datasource),
        ((({} : Roster).registerAll [owner, person]).resolve e).toOption.isSome)) =
        some ((["zoo.Human"], none), true) := by decide +kernel
  obtain ⟨e, hoption, hparts⟩ := Option.map_eq_some_iff.mp hmapped
  obtain ⟨hwritten, hresolves⟩ := Prod.mk.inj hparts
  obtain ⟨hreferences, hdatasource⟩ := Prod.mk.inj hwritten
  obtain ⟨e', he'⟩ := Option.isSome_iff_exists.mp hresolves
  have hok := eq_ok_of_toOption hoption
  have hresolved := eq_ok_of_toOption he'
  obtain ⟨ps, -, -, hsettles⟩ := settles_of_ofDescriptor [owner, person] hok
  have hfound : (({} : Roster).registerAll [owner, person]).findFor e "zoo.Human" =
      some "Person" := by
    rw [findFor, hdatasource]
    decide
  have hraw : (e.element false).references = ["zoo.Human"] := by
    rw [MappedEntity.references_element, hreferences]
  have hnames := hsettles.written (by decide) e' hresolved false
  rw [hraw, List.map_singleton, hfound, ← List.map_singleton (f := some)] at hnames
  exact ⟨e, e', hok, hraw, hresolved, hsettles.again e' hresolved,
    List.map_injective_iff.mpr (fun _ _ => Option.some.inj) hnames⟩

end Roster

end OrmMapping
