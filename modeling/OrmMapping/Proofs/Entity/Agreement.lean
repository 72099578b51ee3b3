import OrmMapping.Proofs.Entity.PropertyPlaces

/-!
# Classes that agree but for some annotations

Two classes can be the same but for the annotations under some keys. What is read under all other
keys is the same in both, or is refused in both. A classic class reads its discriminator from more
than one place, so here the two may also differ in what they make of it, as long as they are told by
the same value.

* `Descriptor.SameBut`: classes that are the same but for some annotations;
* `nested_same`: sets nested in the same value;
* `readClassic_facts_agree`, `placement_agree`, `ofDecls_agree`: the parts of the mapping;
* `ofDescriptor_agree`: the mapping as a whole.
-/

namespace OrmMapping

variable {a b : Annotations} {key key' : String} {keys : List String} {d d' : Descriptor}
  {fallback : Option String} {name entity : String}
  {R : Option Discriminator → Option Discriminator → Prop}

/-- Equal steps agree on equal results. -/
theorem Agree.of_eq {α : Type} {x y : Except MappingError α} (h : x = y) : Agree Eq x y :=
  h ▸ .refl x

/-- Steps that give `.ok r` for the same `r` agree on equal results; their faults may differ. -/
theorem Agree.of_ok_iff {α : Type} {x y : Except MappingError α}
    (h : ∀ r, x = .ok r ↔ y = .ok r) : Agree Eq x y := by
  cases x with
  | ok r => exact .of_eq ((h r).mp rfl).symm
  | error e =>
    cases y with
    | ok r => cases (h r).mpr rfl
    | error e' => exact .failed e e'

/-- Two steps that agree under `R` agree under a relation `S` that excludes `R` exactly when they
are refused. -/
theorem Agree.iff_refused {α β : Type} {R S : α → β → Prop} {x : Except MappingError α}
    {y : Except MappingError β} (h : Agree R x y) (hnever : ∀ r r', R r r' → ¬ S r r') :
    Agree S x y ↔ Refused x := by
  cases h with
  | failed e e' => exact ⟨fun _ => ⟨e, rfl⟩, fun _ => .failed e e'⟩
  | given related =>
    constructor
    · intro hS
      cases hS with
      | given other => exact absurd other (hnever _ _ related)
    · rintro ⟨e, he⟩
      cases he

/-- The sets nested under `key` and `key'` have the same entry under `inner` when the same value
stands under the two keys. -/
theorem nested_same (h : SameEntry a key b key') (shorthand inner : String) :
    SameEntry (a.nested key shorthand) inner (b.nested key' shorthand) inner := by
  unfold SameEntry Annotations.nested
  rw [h.value]

/-! ## Two classes -/

/-- Two classes that are the same but for the annotations under some keys. -/
structure Descriptor.SameBut (keys : List String) (d d' : Descriptor) : Prop where
  name : d.own.name = d'.own.name
  properties : d.own.properties = d'.own.properties
  ancestors : d.ancestors = d'.ancestors
  entries : ∀ key ∉ keys, d.annotations.get? key = d'.annotations.get? key

namespace Descriptor.SameBut

/-- Under a `key` that is not among `keys` the two annotation sets have the same entry, whichever
entities they are read for. -/
theorem sameEntry (h : SameBut keys d d') (hkey : key ∉ keys) (entity entity' : String) :
    SameEntry (d.annotationSet entity) key (d'.annotationSet entity') key :=
  h.entries key hkey

theorem className_eq (h : SameBut keys d d') : d.className = d'.className :=
  congrArg Text.lastSegment h.name

theorem parent?_eq (h : SameBut keys d d') : d.parent? = d'.parent? := by
  rw [Descriptor.parent?, h.ancestors]
  rfl

/-- The effective properties count on the own properties and on the ancestors, and not on the
annotations. -/
theorem effectiveProperties_eq (h : SameBut keys d d') :
    d.effectiveProperties = d'.effectiveProperties := by
  rw [Descriptor.effectiveProperties, Descriptor.effectiveProperties, h.ancestors]
  cases d'.ancestors with
  | nil => exact congrArg Except.ok h.properties
  | cons parent above => rw [effectivePropertiesOf, effectivePropertiesOf, h.properties]

/-- The vocabulary is the same, as long as its mark is not among the `keys` that may differ. -/
theorem dialect_eq (h : SameBut keys d d') (hmarker : Dialect.classicMarker ∉ keys) :
    d.dialect = d'.dialect := by
  unfold Descriptor.dialect Dialect.classify Keyed.has
  rw [h.entries _ hmarker]

end Descriptor.SameBut

/-! ## Facts -/

/-- The keys that classic classes are read under, but for those of the discriminator. -/
def classicClassKeys : List String :=
  ["persistent", "entityname", "table", "schema", "catalog", "readonly", "lazy", "batchsize",
    "rowid", "optimisticlock", "where", "cacheuse", "cachename", "cacheinclude", "datasource",
    "joincolumn", "dynamicinsert", "dynamicupdate", "selectbeforeupdate"]

/-- Facts that are the same but for what is made of the discriminator. -/
def ClassFacts.ApartBy (R : Option Discriminator → Option Discriminator → Prop)
    (facts facts' : ClassFacts) : Prop :=
  R facts.discriminator facts'.discriminator ∧
    facts' = { facts with discriminator := facts'.discriminator }

/-- Entities that are the same but for what is made of the discriminator. -/
def MappedEntity.ApartBy (R : Option Discriminator → Option Discriminator → Prop)
    (e e' : MappedEntity) : Prop :=
  R e.discriminator e'.discriminator ∧ e' = { e with discriminator := e'.discriminator }

/-- `classicCache` reads nothing but `classicClassKeys`. -/
theorem classicCache_agree (h : ∀ key ∈ classicClassKeys, SameEntry a key b key) :
    Agree Eq (classicCache a) (classicCache b) := by
  refine .bindEq (text?_agree (h "cacheuse" (by decide))) fun usage => ?_
  split
  · exact .refl _
  · refine .bindEq (text?_agree (h "cachename" (by decide))) fun region => ?_
    refine .bindEq (text?_agree (h "cacheinclude" (by decide))) fun included => ?_
    exact .refl _

/-- Sets with the same entries under `classicClassKeys` lead to facts that differ in their
discriminators only, which are related by `R`. -/
theorem readClassic_facts_agree (h : ∀ key ∈ classicClassKeys, SameEntry a key b key)
    (hdiscriminator : Agree R (classicDiscriminator a) (classicDiscriminator b)) :
    Agree (ClassFacts.ApartBy R) (ClassFacts.readClassic name a)
      (ClassFacts.readClassic name b) := by
  refine hdiscriminator.bind fun D D' hD => ?_
  refine .bindEq (classicCache_agree h) fun cache => ?_
  refine .bindEq (text?_agree (h "table" (by decide))) fun table => ?_
  refine .bindEq (text?_agree (h "schema" (by decide))) fun schema => ?_
  refine .bindEq (text?_agree (h "catalog" (by decide))) fun catalog => ?_
  refine .bindEq (flag_agree (h "readonly" (by decide))) fun immutable => ?_
  refine .bindEq (flag_agree (h "lazy" (by decide))) fun lazy => ?_
  refine .bindEq (integer?_agree (h "batchsize" (by decide))) fun batchSize => ?_
  refine .bindEq (text?_agree (h "rowid" (by decide))) fun rowId => ?_
  refine .bindEq (text?_agree (h "optimisticlock" (by decide))) fun optimisticLock => ?_
  refine .bindEq (text?_agree (h "where" (by decide))) fun condition => ?_
  exact .given ⟨hD, rfl⟩

/-- `UpdateFlags.read` reads nothing but `classicClassKeys`. -/
theorem updateFlags_agree (h : ∀ key ∈ classicClassKeys, SameEntry a key b key) :
    Agree Eq (UpdateFlags.read a) (UpdateFlags.read b) := by
  refine .bindEq (flag_agree (h "dynamicinsert" (by decide))) fun dynamicInsert => ?_
  refine .bindEq (flag_agree (h "dynamicupdate" (by decide))) fun dynamicUpdate => ?_
  refine .bindEq (flag_agree (h "selectbeforeupdate" (by decide))) fun selectBeforeUpdate => ?_
  exact .refl _

/-! ## Places -/

variable {D D' : Option Discriminator} {decls : List PropertyDecl} {dialect : Dialect}

/-- The place of a class depends on its discriminators `D` and `D'` by their values only, and on the
annotations by the join column only. -/
theorem placement_agree (h : d.SameBut keys d') (hkey : "joincolumn" ∉ keys)
    (hvalue : D.bind (·.value) = D'.bind (·.value)) :
    Agree Eq (Placement.of? d (d.annotationSet entity) D).outcome
      (Placement.of? d' (d'.annotationSet entity) D').outcome := by
  have hjoin := h.sameEntry hkey entity entity
  unfold Placement.of?
  rw [h.parent?_eq, hvalue, hjoin.has]
  -- no parent, no persistent parent, and neither a value nor a join column: no placement
  dsimp only
  split
  · exact .refl _
  · split
    · exact .refl _
    · split
      · exact .refl _
      · refine .reportEq (.refl _) fun name => .reportEq (.refl _) fun table => ?_
        exact .reportEq (text?_agree (nested_same hjoin _ _)) fun named => .refl _

/-- The places of `decls` count on the entity of the annotation set, and on no entry of it. -/
theorem ofDecls_agree (h : a.entity = b.entity) :
    Agree Eq (PropertyPlaces.ofDecls dialect a decls).outcome
      (PropertyPlaces.ofDecls dialect b decls).outcome := by
  -- what is placed is known by `addDecls_eq_ok_iff`, which names the entity only
  refine .of_ok_iff fun places => ?_
  rw [PropertyPlaces.ofDecls, PropertyPlaces.ofDecls, addDecls_eq_ok_iff, addDecls_eq_ok_iff, h]

/-- The check of the key reads no annotations. The two sets only show in the fault. -/
theorem requireKey_agree (a b : Annotations) (table : String) (placement : Option Placement) :
    Agree Eq (requireKey a table placement) (requireKey b table placement) := by
  unfold requireKey
  split
  · split
    · exact .failed _ _
    · exact .refl _
  · exact .refl _

/-- The check of the identifier reads no annotations. The two sets only show in the fault. -/
theorem requireIdentifier_agree (a b : Annotations) (places : PropertyPlaces)
    (placement : Option Placement) :
    Agree Eq (requireIdentifier a places placement) (requireIdentifier b places placement) := by
  unfold requireIdentifier
  split
  · exact .failed _ _
  · exact .refl _

/-! ## Classes -/

section Classes

variable (h : d.SameBut keys d') (hkeys : ∀ key ∈ classicClassKeys, key ∉ keys)

include h hkeys

/-- Neither does the datasource tell `d` and `d'` apart. -/
theorem datasource_agree : Agree Eq (d.datasource fallback) (d'.datasource fallback) :=
  .bindEq (text?_agree (h.sameEntry (hkeys "datasource" (by decide)) _ _)) fun _ => .refl _

variable (hclassic : d.dialect = .classic)

include hclassic

/-- With `d` the class `d'` is classic, too. -/
theorem dialect_eq_classic : d'.dialect = .classic :=
  (h.dialect_eq (hkeys _ (by decide))).symm.trans hclassic

/-- Classic classes that differ under other keys than `classicClassKeys` have the same entity name,
or none. -/
theorem entityName_agree : Agree Eq d.entityName d'.entityName := by
  unfold Descriptor.entityName
  rw [hclassic, dialect_eq_classic h hkeys hclassic, h.className_eq]
  exact .bindEq (text?_agree (h.sameEntry (hkeys "entityname" (by decide)) _ _)) fun _ => .refl _

/-- Classic classes that differ under other keys than `classicClassKeys` declare the same table, or
none can be read. -/
theorem declaredTable_agree : Agree Eq d.declaredTable d'.declaredTable := by
  unfold Descriptor.declaredTable
  rw [hclassic, dialect_eq_classic h hkeys hclassic]
  exact text?_agree (h.sameEntry (hkeys "table" (by decide)) _ _)

/-- The facts of `d` and `d'` are apart by their discriminators only, and these are related by
`R`. -/
theorem classFacts_agree
    (hdiscriminator : Agree R (classicDiscriminator d.classAnnotations)
      (classicDiscriminator d'.classAnnotations)) :
    Agree (ClassFacts.ApartBy R) (ClassFacts.read d) (ClassFacts.read d') := by
  unfold ClassFacts.read
  refine .bindEq (entityName_agree h hkeys hclassic) fun name => ?_
  rw [hclassic, dialect_eq_classic h hkeys hclassic]
  exact readClassic_facts_agree (fun key hkey => h.sameEntry (hkeys key hkey) _ _) hdiscriminator

/-- Two classic classes that differ under other keys than `classicClassKeys`, and whose
discriminators agree under `R`, are both refused, or are mapped to entities that are apart by `R` on
the discriminator only. `hvalue` is needed as the value of a discriminator decides on the place of
the class, too. -/
theorem ofDescriptor_agree (hvalue : ∀ D D', R D D' → D.bind (·.value) = D'.bind (·.value))
    (hdiscriminator : Agree R (classicDiscriminator d.classAnnotations)
      (classicDiscriminator d'.classAnnotations)) :
    Agree (MappedEntity.ApartBy R) (MappedEntity.ofDescriptor d fallback).outcome
      (MappedEntity.ofDescriptor d' fallback).outcome := by
  have hentries : ∀ entity, ∀ key ∈ classicClassKeys,
      SameEntry (d.annotationSet entity) key (d'.annotationSet entity) key :=
    fun entity key hkey => h.sameEntry (hkeys key hkey) entity entity
  -- the steps of the mapping in their order, each with its own lemma
  unfold MappedEntity.ofDescriptor
  refine .reportEq (.of_eq h.effectiveProperties_eq) fun properties => ?_
  refine .report (classFacts_agree h hkeys hclassic hdiscriminator) ?_
  rintro facts facts' ⟨hD, hfacts⟩
  obtain ⟨hname, htable⟩ : facts'.entityName = facts.entityName ∧
      facts'.tableName = facts.tableName := by
    rw [hfacts]
    exact ⟨rfl, rfl⟩
  rw [hname]
  dsimp only
  refine .reportEq (placement_agree h (hkeys _ (by decide)) (hvalue _ _ hD)) fun placement => ?_
  refine .reportEq (declaredTable_agree h hkeys hclassic) fun declared => ?_
  -- the table at the place counts on the facts by their table name, which is the same
  have htableAt : tableAt facts' declared placement = tableAt facts declared placement := by
    unfold tableAt
    rw [htable]
  rw [htableAt]
  refine .reportEq (requireKey_agree _ _ _ _) fun _ => ?_
  rw [hclassic, dialect_eq_classic h hkeys hclassic]
  refine .reportEq (ofDecls_agree rfl) fun places => ?_
  refine .reportEq (requireIdentifier_agree _ _ _ _) fun _ => ?_
  refine .reportEq (updateFlags_agree (hentries _)) fun flags => ?_
  refine .reportEq (datasource_agree h hkeys) fun datasource => ?_
  have hextended : d'.isExtended = d.isExtended := by
    rw [Descriptor.isExtended, ← h.parent?_eq]
    rfl
  refine .given ⟨hD, ?_⟩
  rw [hfacts, hextended]

end Classes

end OrmMapping
