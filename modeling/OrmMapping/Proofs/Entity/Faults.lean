import OrmMapping.Proofs.Entity.Parts
import OrmMapping.Proofs.Property.Faults

/-!
# What can be wrong with a class

Whatever the annotations of a class and of its ancestors say, the class is mapped, or there is a
fault in them. What is mapped can be told from others of its kind: it has an identifier or a place
under a parent that has one.

* `entityName_blames`, `datasource_blames`: what is read when the class is found;
* `classFacts_blames`, `placement_blames`, `ofDecls_blames`: the parts of its mapping;
* `ofDescriptor_blames`: the mapping as a whole;
* `MappedEntity.isIdentified`: an identifier, or a parent;
* `isIdentified_of_ofDescriptor`: every mapped entity has one of the two.
-/

namespace OrmMapping

variable {a inner : Annotations} {d : Descriptor} {key table : String} {keys : List String}
  {dialect : Dialect} {fallback : Option String} {placement : Option Placement}
  {places : PropertyPlaces} {decls : List PropertyDecl} {e e' : MappedEntity}

/-! ## Class-level facts -/

/-- A text of the discriminator, nested or flat, is read or blames an annotation. -/
@[simp] theorem nestedOrFlat_blames : Blames (nestedOrFlat inner keys a key) := by
  refine .bind firstText?_blames fun text => ?_
  split <;> simp

/-- The flat vocabulary refuses a discriminator for a fault only. -/
@[simp] theorem classicDiscriminator_blames : Blames (classicDiscriminator a) := by
  unfold classicDiscriminator
  dsimp only
  split
  · simp
  · refine .bind (by simp) fun value => ?_
    refine .bind (by simp) fun column => ?_
    refine .bind (by simp) fun type => ?_
    refine .bind (by simp) fun formula => ?_
    -- a flat flag is read only where the nested one does not settle it
    refine .bind flag_blames fun force => ?_
    split <;> refine .bind (by simp) fun _ => .bind flag_blames fun insert => ?_
    all_goals
      split <;> exact .bind (by simp) fun _ => blames_pure _

@[simp] theorem classicCache_blames : Blames (classicCache a) := by
  refine .bind text?_blames fun usage => ?_
  split
  · simp
  · repeat refine .bind (by simp) fun _ => ?_
    exact blames_pure _

/-- The flat vocabulary refuses the facts of a class for a fault only. -/
@[simp] theorem readClassic_facts_blames {name : String} :
    Blames (ClassFacts.readClassic name a) := by
  unfold ClassFacts.readClassic
  repeat refine .bind (by simp) fun _ => ?_
  exact blames_pure _

@[simp] theorem modernDiscriminator_blames : Blames (modernDiscriminator a) := by
  unfold modernDiscriminator
  dsimp only
  split
  · simp
  · repeat refine .bind (by simp) fun _ => ?_
    exact blames_pure _

@[simp] theorem modernCache_blames : Blames (modernCache a) := by
  unfold modernCache
  dsimp only
  split
  · simp
  · refine .bind firstText?_blames fun usage => ?_
    split
    · simp
    · repeat refine .bind (by simp) fun _ => ?_
      exact blames_pure _

/-- The structured vocabulary refuses the facts of a class for a fault only. -/
@[simp] theorem readModern_facts_blames {name : String} :
    Blames (ClassFacts.readModern name a) := by
  unfold ClassFacts.readModern
  dsimp only
  repeat refine .bind (by simp) fun _ => ?_
  exact blames_pure _

/-- The entity name of any class is read, or there is a fault. -/
@[simp] theorem entityName_blames : Blames d.entityName := by
  unfold Descriptor.entityName
  split <;> exact .bind text?_blames fun _ => blames_pure _

@[simp] theorem declaredTable_blames : Blames d.declaredTable := by
  unfold Descriptor.declaredTable
  split <;> simp

/-- The datasource of any class is read, or there is a fault. -/
@[simp] theorem datasource_blames : Blames (d.datasource fallback) :=
  .bind text?_blames fun _ => blames_pure _

/-- The facts of a class are read in its vocabulary, or there is a fault. -/
@[simp] theorem classFacts_blames : Blames (ClassFacts.read d) := by
  refine .bind entityName_blames fun name => ?_
  split <;> simp

/-! ## Ancestors -/

@[simp] theorem handsDown_blames {c : ClassDecl} : Blames (handsDown c) :=
  .bind flag_blames fun _ => blames_pure _

theorem effectivePropertiesOf_blames (own : ClassDecl) (ancestors : List ClassDecl) :
    Blames (effectivePropertiesOf own ancestors) := by
  induction ancestors generalizing own with
  | nil => exact blames_ok _
  | cons parent above ih =>
    refine .bind handsDown_blames fun handed => ?_
    split
    · exact .bind (ih parent) fun _ => blames_pure _
    · simp

@[simp] theorem effectiveProperties_blames : Blames d.effectiveProperties :=
  effectivePropertiesOf_blames d.own d.ancestors

/-- The search for the column of the identifier stops at a fault or comes to a result. -/
theorem firstIdColumn_blames (dialect : Dialect) (entity : String) (decls : List PropertyDecl) :
    Blames (Descriptor.firstIdColumn dialect entity decls).outcome := by
  -- the search goes on after anything but an identifier with a column
  induction decls with
  | nil => exact blames_ok _
  | cons decl rest ih =>
    refine .report ofDecl_blames fun mapped => ?_
    split
    · split
      · simp
      · exact ih
    · exact ih

/-- The column of the identifier of a class is looked up, or there is a fault. -/
@[simp] theorem identifierColumn_blames : Blames d.identifierColumn.outcome := by
  refine .report entityName_blames fun entity => ?_
  exact .report effectiveProperties_blames fun properties => firstIdColumn_blames _ _ _

/-- The place of a class is settled, or there is a fault in the class or in its parent. -/
@[simp] theorem placement_blames {discriminator : Option Discriminator} :
    Blames (Placement.of? d a discriminator).outcome := by
  unfold Placement.of?
  dsimp only
  split
  · simp
  · split
    · simp
    · split
      · simp
      · -- the persistent parent is asked for its name and table, then the join column is read
        refine .report (by simp) fun name => ?_
        refine .report (by simp) fun table => ?_
        refine .report (by simp) fun named => ?_
        split
        · exact .report (blames_pure _) fun _ => blames_pure _
        · exact .report identifierColumn_blames fun _ => blames_pure _

/-! ## Properties -/

/-- A property takes its place; a second version is reported by a warning, not by a fault. -/
@[simp] theorem add_blames {p : MappedProperty} {entity : String} :
    Blames (places.add p entity).outcome := by
  unfold PropertyPlaces.add
  split
  · simp
  · split
    · split
      · exact .report (blames_warn _) fun _ => blames_pure _
      · simp
    · simp

/-- Whatever names are `seen` and whatever `places` are taken, further declarations are placed or
there is a fault. -/
theorem addDecls_blames (seen : List String) :
    Blames (PropertyPlaces.addDecls dialect a seen places decls).outcome := by
  -- both the names seen and the places grow along the declarations
  induction decls generalizing seen places with
  | nil => exact blames_ok _
  | cons decl rest ih =>
    refine .report ofDecl_blames fun mapped => ?_
    split
    · exact ih seen
    · dsimp only
      split
      · simp
      · exact .report add_blames fun _ => ih _

@[simp] theorem ofDecls_blames : Blames (PropertyPlaces.ofDecls dialect a decls).outcome :=
  addDecls_blames []

/-- The check of the key refuses for a fault only. -/
@[simp] theorem requireKey_blames : Blames (requireKey a table placement) := by
  unfold requireKey
  split
  · split <;> simp
  · simp

/-- The check of the identifier refuses for a fault only. -/
@[simp] theorem requireIdentifier_blames : Blames (requireIdentifier a places placement) := by
  unfold requireIdentifier
  split <;> simp

@[simp] theorem updateFlags_blames : Blames (UpdateFlags.read a) := by
  unfold UpdateFlags.read
  repeat refine .bind (by simp) fun _ => ?_
  exact blames_pure _

/-- For every descriptor `d` the mapping gives an entity or blames something in the annotations of
`d`. -/
theorem ofDescriptor_blames : Blames (MappedEntity.ofDescriptor d fallback).outcome := by
  unfold MappedEntity.ofDescriptor
  dsimp only
  repeat refine .report (by simp) fun _ => ?_
  exact blames_pure _

/-! ## Identity -/

/-- Whether an entity can be told from others of its kind: it has an identifier, or a parent. -/
def MappedEntity.isIdentified (e : MappedEntity) : Bool :=
  e.placement.isSome || !e.ids.isEmpty

/-- What passes the check of the identifier has a placement or an identifier. -/
theorem requireIdentifier_eq_ok (h : requireIdentifier a places placement = .ok ()) :
    (placement.isSome || !places.ids.isEmpty) = true := by
  unfold requireIdentifier at h
  split at h
  · cases h
  · next hfree =>
    cases placement with
    | some p => rfl
    | none => simpa using hfree

/-- Every mapped class is identified, since `requireIdentifier` is one of the steps of the
mapping. -/
theorem isIdentified_of_ofDescriptor
    (h : (MappedEntity.ofDescriptor d fallback).outcome = .ok e) : e.isIdentified = true := by
  obtain ⟨parts, hread, rfl⟩ := MappedEntity.ofDescriptor_eq_ok_iff.mp h
  exact requireIdentifier_eq_ok hread.identifier

end OrmMapping
