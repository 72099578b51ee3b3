import Mathlib.Data.List.Forall2
import OrmMapping.Entity.Mapping
import OrmMapping.Proofs.Property.Footprint

/-!
# What is read of classes

Each vocabulary reads the annotations of a class under keys of its own, and so it does for the
properties. A class is mapped alike, with the same faults and warnings, whatever stands under all
other keys.

* `Dialect.classKeys`: the keys under which a vocabulary reads;
* `readClassic_class_alike`, `readModern_class_alike`, `classFacts_eq`: the facts of a class;
* `exists_inherited`: what a class has of those above, for any own properties of the same names;
* `MappedEntity.ofDescriptor_alike`: the mapping as a whole.
-/

namespace OrmMapping

/-- The keys under which a class has sets, each with the entry that shorthand stands for. -/
def Dialect.classShorthands : Dialect → Keyed String
  | .classic => [("discriminator", "value"), ("joincolumn", "name")]
  | .modern =>
    [("entity", "name"), ("table", "name"), ("joincolumn", "name"), ("discriminator", "value"),
      ("cache", "strategy")]

/-- The keys under which a class has single values, the mark of the vocabulary among them. -/
def Dialect.classValueKeys : Dialect → List String
  | .classic =>
    ["persistent", "entityname", "table", "schema", "catalog", "readonly", "lazy", "batchsize",
      "rowid", "optimisticlock", "where", "discriminatorcolumn", "discriminatorvalue",
      "discriminatortype", "discriminatorformula", "discriminatorforce", "discriminatorinsert",
      "cacheuse", "cachename", "cacheinclude", "dynamicinsert", "dynamicupdate",
      "selectbeforeupdate", "datasource"]
  | .modern =>
    ["persistent", "immutable", "lazy", "batchsize", "rowid", "optimisticlock", "where",
      "dynamicinsert", "dynamicupdate", "selectbeforeupdate", "datasource"]

/-- The keys under which a vocabulary reads on a class. -/
def Dialect.classKeys (dialect : Dialect) : ReadKeys :=
  ⟨dialect.classValueKeys, dialect.classShorthands⟩

/-- The vocabulary of a class. -/
def ClassDecl.dialect (c : ClassDecl) : Dialect :=
  Dialect.classify c.annotations

/-- Classes of which the same is read, but for their properties. -/
structure ClassDecl.Alike (c c' : ClassDecl) : Prop where
  name : c'.name = c.name
  annotations : AlikeUnder c.dialect.classKeys c.annotations c'.annotations

/-- Descriptors of which the same is read. -/
structure Descriptor.Alike (d d' : Descriptor) : Prop where
  own : d.own.Alike d'.own
  properties : List.Forall₂ (PropertyDecl.Alike d.dialect) d.own.properties d'.own.properties
  ancestors : d'.ancestors = d.ancestors

variable {a a' : Annotations} {c c' : ClassDecl} {d d' : Descriptor} {dialect : Dialect}
  {name : String} {decls decls' : List PropertyDecl}

/-! ## Facts -/

/-- `UpdateFlags.read` reads nothing but the keys of either vocabulary. -/
theorem updateFlags_alike (h : a.AlikeUnder dialect.classKeys a') :
    UpdateFlags.read a' = UpdateFlags.read a := by
  cases dialect <;> simp (disch := decide) only [UpdateFlags.read, h.flag_eq]

/-- `ClassFacts.readClassic` reads nothing but the classic class keys. -/
theorem readClassic_class_alike (h : a.AlikeUnder Dialect.classic.classKeys a') :
    ClassFacts.readClassic name a' = ClassFacts.readClassic name a := by
  simp (disch := decide) only [ClassFacts.readClassic, classicDiscriminator, nestedOrFlat,
    classicCache, h.nested_eq, h.has_eq, h.text?_eq, h.flag_eq, h.integer?_eq]

/-- `ClassFacts.readModern` reads nothing but the modern class keys. -/
theorem readModern_class_alike (h : a.AlikeUnder Dialect.modern.classKeys a') :
    ClassFacts.readModern name a' = ClassFacts.readModern name a := by
  simp (disch := decide) only [ClassFacts.readModern, modernDiscriminator, modernCache,
    h.nested_eq, h.has_set_eq, h.has_eq, h.text?_eq, h.flag_eq, h.integer?_eq, h.malformed_eq]

/-! ## Classes -/

namespace ClassDecl.Alike

variable (h : c.Alike c')

include h

theorem className_eq : c'.className = c.className :=
  congrArg Text.lastSegment h.name

/-- The mark of the vocabulary is among the keys that are read, so both classes are in the same
one. -/
theorem dialect_eq : c'.dialect = c.dialect := by
  have hmark : Dialect.classicMarker ∈ c.dialect.classKeys.values := by
    cases c.dialect <;> decide
  unfold ClassDecl.dialect Dialect.classify
  rw [Keyed.has, Keyed.has, h.annotations.values _ hmark]

end ClassDecl.Alike

section Own

variable (h : d.own.Alike d'.own)

include h

/-- Alike classes have the same name without their package. -/
theorem className_alike : d'.className = d.className :=
  h.className_eq

theorem dialect_alike : d'.dialect = d.dialect :=
  h.dialect_eq

/-- The annotation sets are alike under the keys of the vocabulary, for any `entity`. -/
theorem annotationSet_alike (entity : String) :
    (d.annotationSet entity).AlikeUnder d.dialect.classKeys (d'.annotationSet entity) :=
  ⟨rfl, rfl, h.annotations⟩

/-- The sets that are read before the entity has a name are alike under the keys of the
vocabulary. -/
theorem classAnnotations_alike :
    d.classAnnotations.AlikeUnder d.dialect.classKeys d'.classAnnotations :=
  ⟨className_alike h, rfl, h.annotations⟩

/-- The entity name of a class counts on what is alike. -/
theorem entityName_alike : d'.entityName = d.entityName := by
  have hset := classAnnotations_alike h
  unfold Descriptor.entityName
  rw [dialect_alike h, className_alike h]
  cases hdialect : d.dialect with
  | classic =>
    rw [hdialect] at hset
    simp (disch := decide) only [hset.text?_eq]
  | modern =>
    rw [hdialect] at hset
    simp (disch := decide) only [hset.nested_eq]

/-- The declared table of a class counts on what is alike. -/
theorem declaredTable_alike : d'.declaredTable = d.declaredTable := by
  have hset := classAnnotations_alike h
  unfold Descriptor.declaredTable
  rw [dialect_alike h]
  cases hdialect : d.dialect with
  | classic =>
    rw [hdialect] at hset
    simp (disch := decide) only [hset.text?_eq]
  | modern =>
    rw [hdialect] at hset
    simp (disch := decide) only [hset.nested_eq]

/-- The datasource of a class counts on what is alike. -/
theorem datasource_alike (fallback : Option String) :
    d'.datasource fallback = d.datasource fallback := by
  have hkey : "datasource" ∈ d.dialect.classKeys.values := by
    cases d.dialect <;> decide
  simp only [Descriptor.datasource, (classAnnotations_alike h).text?_eq hkey]

/-- The facts of a class count on what is alike. -/
theorem classFacts_alike : ClassFacts.read d' = ClassFacts.read d := by
  have hset := classAnnotations_alike h
  unfold ClassFacts.read
  rw [dialect_alike h, entityName_alike h]
  cases hdialect : d.dialect with
  | classic =>
    rw [hdialect] at hset
    simp only [readClassic_class_alike hset]
  | modern =>
    rw [hdialect] at hset
    simp only [readModern_class_alike hset]

end Own

/-! ## Properties -/

/-- What a class inherits counts on its own properties by their folded names alone: there is one
`inherited` for all classes `c` with the names of `own`. -/
theorem exists_inherited (own : List PropertyDecl) (above : List ClassDecl) :
    ∃ inherited : Except MappingError (List PropertyDecl), ∀ c : ClassDecl,
      (c.properties.map fun p => Text.lower p.name) = (own.map fun p => Text.lower p.name) →
      effectivePropertiesOf c above = inherited.map (· ++ c.properties) := by
  cases above with
  | nil => exact ⟨.ok [], fun _ _ => rfl⟩
  | cons parent rest =>
    -- the step of the chain: whether the nearest class above hands down does not count on `own`
    cases hhands : handsDown parent with
    | error e =>
      refine ⟨.error e, fun c _ => ?_⟩
      rw [effectivePropertiesOf, hhands]
      rfl
    | ok hands =>
      cases hands with
      | false =>
        refine ⟨.ok [], fun c _ => ?_⟩
        rw [effectivePropertiesOf, hhands]
        rfl
      | true =>
        refine ⟨(effectivePropertiesOf parent rest).map fun above => above.filter fun p =>
          !(own.map fun p => Text.lower p.name).contains (Text.lower p.name), fun c hnames => ?_⟩
        rw [effectivePropertiesOf, hhands]
        cases effectivePropertiesOf parent rest with
        | error e => rfl
        | ok above =>
          rw [← hnames]
          rfl

/-- Alike declarations have the same folded names in the same order. -/
theorem names_alike (h : List.Forall₂ (PropertyDecl.Alike dialect) decls decls') :
    (decls'.map fun p => Text.lower p.name) = decls.map fun p => Text.lower p.name := by
  induction h with
  | nil => rfl
  | cons hfirst _ ih => rw [List.map_cons, List.map_cons, hfirst.name, ih]

/-- Alike declarations take the same places, with the same faults and warnings. -/
theorem ofDecls_alike (h : List.Forall₂ (PropertyDecl.Alike dialect) decls decls')
    {keys : ReadKeys} (hset : a.AlikeUnder keys a') :
    PropertyPlaces.ofDecls dialect a' decls' = PropertyPlaces.ofDecls dialect a decls := by
  -- for any names seen and places taken, as both change along the list
  have hadd : ∀ seen places, PropertyPlaces.addDecls dialect a' seen places decls' =
      PropertyPlaces.addDecls dialect a seen places decls := by
    induction h with
    | nil => exact fun _ _ => rfl
    | cons hfirst _ ih =>
      intro seen places
      simp only [PropertyPlaces.addDecls, ofDecl_alike hfirst, hset.entity, hset.malformed_eq, ih]
  exact hadd [] {}

/-! ## Places and checks -/

/-- Both vocabularies read the join column as a set, with `name` for its shorthand. -/
theorem joinColumn_mem_sets (dialect : Dialect) :
    "joincolumn" ∈ dialect.classKeys.sets.keys ∧
      dialect.classKeys.sets.get? "joincolumn" = some "name" := by
  cases dialect <;> decide

/-- The place of a class counts on its parent, its discriminator `D` and its join column. -/
theorem placement_alike (hparent : d'.parent? = d.parent?)
    (hset : a.AlikeUnder dialect.classKeys a') (D : Option Discriminator) :
    Placement.of? d' a' D = Placement.of? d a D := by
  obtain ⟨hmark, hjoin⟩ := joinColumn_mem_sets dialect
  unfold Placement.of?
  rw [hparent, hset.has_set_eq hmark, hset.nested_eq hjoin]

section Checks

variable {keys : ReadKeys} (h : a.AlikeUnder keys a') (placement : Option Placement)

include h

/-- Alike sets show as the same in the fault of the check of the key. -/
theorem requireKey_alike (table : String) :
    requireKey a' table placement = requireKey a table placement := by
  simp only [requireKey, h.malformed_eq]

/-- Alike sets show as the same in the fault of the check of the identifier. -/
theorem requireIdentifier_alike (places : PropertyPlaces) :
    requireIdentifier a' places placement = requireIdentifier a places placement := by
  simp only [requireIdentifier, h.malformed_eq]

end Checks

/-! ## Entities -/

/-- Alike descriptors are mapped to the same entity or refused with the same fault, and with the
same warnings. -/
theorem MappedEntity.ofDescriptor_alike (h : d.Alike d') (fallback : Option String) :
    MappedEntity.ofDescriptor d' fallback = MappedEntity.ofDescriptor d fallback := by
  have hparent : d'.parent? = d.parent? := by
    rw [Descriptor.parent?, Descriptor.parent?, h.ancestors]
  have hextended : d'.isExtended = d.isExtended := by
    rw [Descriptor.isExtended, Descriptor.isExtended, hparent]
  obtain ⟨inherited, hinherited⟩ := exists_inherited d.own.properties d.ancestors
  have hown : d.effectiveProperties = inherited.map (· ++ d.own.properties) := hinherited d.own rfl
  have hown' : d'.effectiveProperties = inherited.map (· ++ d'.own.properties) := by
    rw [Descriptor.effectiveProperties, h.ancestors]
    exact hinherited d'.own (names_alike h.properties)
  unfold MappedEntity.ofDescriptor
  rw [hown, hown', classFacts_alike h.own]
  -- the properties differ in the own part only, and are alike there
  cases inherited with
  | error e => rfl
  | ok front =>
    have hdecls : List.Forall₂ (PropertyDecl.Alike d.dialect) (front ++ d.own.properties)
        (front ++ d'.own.properties) :=
      List.rel_append (List.forall₂_same.mpr fun decl _ => .refl _ decl) h.properties
    have hgiven : ∀ (decls : List PropertyDecl) (f : List PropertyDecl → Report MappedEntity),
        (liftM (.ok decls : Except MappingError (List PropertyDecl)) >>= f) = f decls :=
      fun _ _ => rfl
    rw [Except.map, Except.map, hgiven, hgiven]
    refine bind_congr fun facts => ?_
    have hset := annotationSet_alike h.own facts.entityName
    dsimp only
    simp only [placement_alike hparent hset, declaredTable_alike h.own, requireKey_alike hset,
      dialect_alike h.own, ofDecls_alike hdecls hset, requireIdentifier_alike hset,
      updateFlags_alike hset, datasource_alike h.own, hextended]

end OrmMapping
