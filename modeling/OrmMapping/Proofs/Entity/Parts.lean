import OrmMapping.Entity.Mapping

/-!
# The parts of a mapping

A class is mapped from parts that are read in turn, and two checks stand between the readings. What
is known of a mapped class is known of its parts.

* `EntityParts`, `EntityParts.entity`: the parts, and the entity made of them;
* `EntityParts.ReadFrom`: parts as they are read of a class, and pass the checks;
* `MappedEntity.ofDescriptor_eq_ok_iff`: a class is mapped when its parts can be read;
* `Placement.MadeFrom`, `Placement.parts_of_of?`: what the place of a subclass is made from.
-/

namespace OrmMapping

/-- What a class is mapped from. -/
structure EntityParts where
  decls : List PropertyDecl
  facts : ClassFacts
  placement : Option Placement
  declared : Option String
  places : PropertyPlaces
  flags : UpdateFlags
  datasource : Option String

namespace EntityParts

/-- The table at the place of the class. -/
def table (parts : EntityParts) : String :=
  tableAt parts.facts parts.declared parts.placement

/-- The entity that is made of the parts. -/
def entity (parts : EntityParts) (d : Descriptor) : MappedEntity where
  entityName := parts.facts.entityName
  tableName := parts.table
  ids := parts.places.ids
  properties := parts.places.others
  version := parts.places.version
  dialect := d.dialect
  schema := parts.facts.schema
  catalog := parts.facts.catalog
  extended := d.isExtended
  immutable := parts.facts.immutable
  dynamicInsert := parts.flags.dynamicInsert
  dynamicUpdate := parts.flags.dynamicUpdate
  selectBeforeUpdate := parts.flags.selectBeforeUpdate
  batchSize := parts.facts.batchSize
  rowId := parts.facts.rowId
  lazy := parts.facts.lazy
  optimisticLock := parts.facts.optimisticLock
  condition := parts.facts.condition
  discriminator := parts.facts.discriminator
  cache := parts.facts.cache
  datasource := parts.datasource
  placement := parts.placement

/-- The annotations of the class, read under the name of its entity. -/
def annotations (parts : EntityParts) (d : Descriptor) : Annotations :=
  d.annotationSet parts.facts.entityName

/-- The parts are those of the class, and pass the checks. -/
structure ReadFrom (parts : EntityParts) (d : Descriptor) (fallback : Option String) : Prop where
  decls : d.effectiveProperties = .ok parts.decls
  facts : ClassFacts.read d = .ok parts.facts
  placement : (Placement.of? d (parts.annotations d) parts.facts.discriminator).outcome =
    .ok parts.placement
  declared : d.declaredTable = .ok parts.declared
  key : requireKey (parts.annotations d) parts.table parts.placement = .ok ()
  places : (PropertyPlaces.ofDecls d.dialect (parts.annotations d) parts.decls).outcome =
    .ok parts.places
  identifier : requireIdentifier (parts.annotations d) parts.places parts.placement = .ok ()
  flags : UpdateFlags.read (parts.annotations d) = .ok parts.flags
  datasource : d.datasource fallback = .ok parts.datasource

end EntityParts

/-- Inversion of `MappedEntity.ofDescriptor`: a class is mapped to `e` exactly when there are parts
that can be read of it, pass the two checks and make up `e`. -/
theorem MappedEntity.ofDescriptor_eq_ok_iff {d : Descriptor} {fallback : Option String}
    {e : MappedEntity} :
    (MappedEntity.ofDescriptor d fallback).outcome = .ok e ↔
      ∃ parts : EntityParts, parts.ReadFrom d fallback ∧ parts.entity d = e := by
  simp only [MappedEntity.ofDescriptor, Report.bind_def, Report.outcome_andThen_eq_ok,
    Report.liftM_def, Report.outcome_ofExcept]
  constructor
  · rintro ⟨decls, hdecls, facts, hfacts, placement, hplacement, declared, hdeclared, ⟨⟩, hkey,
      places, hplaces, ⟨⟩, hidentifier, flags, hflags, datasource, hdatasource, he⟩
    refine ⟨⟨decls, facts, placement, declared, places, flags, datasource⟩, ?_, Except.ok.inj he⟩
    exact ⟨hdecls, hfacts, hplacement, hdeclared, hkey, hplaces, hidentifier, hflags, hdatasource⟩
  · rintro ⟨parts, h, rfl⟩
    exact ⟨_, h.decls, _, h.facts, _, h.placement, _, h.declared, (), h.key, _, h.places, (),
      h.identifier, _, h.flags, _, h.datasource, rfl⟩

/-! ## The place of a subclass -/

variable {d : Descriptor} {a : Annotations} {discriminator : Option Discriminator}
  {placement : Placement}

/-- What a placement has from the parent and from the discriminator of the class: the name of the
parent and the table that it declares, or else its name, and the value that tells the class. -/
structure Placement.MadeFrom (placement : Placement) (parent : Descriptor)
    (discriminator : Option Discriminator) : Prop where
  persistent : parent.isPersistent = true
  parentName : parent.entityName = .ok placement.parent
  table : ∃ table, parent.declaredTable = .ok table ∧
    placement.parentTable = table.getD placement.parent
  value : placement.discriminatorValue = discriminator.bind (·.value)
  unresolved : placement.parentEntity = none

/-- Inversion of `Placement.of?`: a placement is made from a parent, and its join column is the
`named` one. The parent's identifier is looked up only when none is named. -/
theorem Placement.parts_of_of?
    (h : (Placement.of? d a discriminator).outcome = .ok (some placement)) :
    ∃ parent named, d.parent? = some parent ∧ placement.MadeFrom parent discriminator ∧
      (a.nested "joincolumn").text? "name" = .ok named ∧
      (named.isSome = true → placement.joinColumn = named) ∧
      (named = none → parent.identifierColumn.outcome = .ok placement.joinColumn) := by
  -- three ways to have no placement come before the one to have one
  unfold Placement.of? at h
  split at h
  · cases h
  · next parent hparent =>
    cases hpersistent : parent.isPersistent with
    | false =>
      rw [hpersistent] at h
      cases h
    | true =>
      simp only [hpersistent, Bool.not_true, Bool.false_eq_true, if_false] at h
      split at h
      · cases h
      · simp only [Report.bind_def, Report.outcome_andThen_eq_ok, Report.liftM_def,
          Report.outcome_ofExcept] at h
        obtain ⟨name, hname, table, htable, named, hnamed, hplacement⟩ := h
        cases named with
        | some column =>
          cases hplacement
          exact ⟨parent, some column, hparent,
            ⟨hpersistent, hname, ⟨table, htable, rfl⟩, rfl, rfl⟩, hnamed, fun _ => rfl, nofun⟩
        | none =>
          obtain ⟨column, hcolumn, hplacement⟩ := Report.outcome_andThen_eq_ok.mp hplacement
          cases hplacement
          exact ⟨parent, none, hparent,
            ⟨hpersistent, hname, ⟨table, htable, rfl⟩, rfl, rfl⟩, hnamed, nofun, fun _ => hcolumn⟩

/-- A placement is made from the parent of the class and from its discriminator. -/
theorem Placement.of?_eq_some
    (h : (Placement.of? d a discriminator).outcome = .ok (some placement)) :
    ∃ parent, d.parent? = some parent ∧ placement.MadeFrom parent discriminator := by
  obtain ⟨parent, _, hparent, hmade, -⟩ := parts_of_of? h
  exact ⟨parent, hparent, hmade⟩

/-- The placement of a mapped class is made from the parent of its descriptor and from the
discriminator of the entity itself. -/
theorem MappedEntity.placement_of_ofDescriptor {fallback : Option String} {e : MappedEntity}
    (h : (ofDescriptor d fallback).outcome = .ok e) (hplacement : e.placement = some placement) :
    ∃ parent, d.parent? = some parent ∧ placement.MadeFrom parent e.discriminator := by
  obtain ⟨parts, hread, rfl⟩ := ofDescriptor_eq_ok_iff.mp h
  exact Placement.of?_eq_some (hread.placement.trans (congrArg Except.ok hplacement))

end OrmMapping
