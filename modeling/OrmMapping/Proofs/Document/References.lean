import OrmMapping.Document.Layout

/-!
# References in documents

A document refers to other entities in two ways: the elements of relationships name the entity that
they lead to, and a subclass names the entity that it extends. Both are attributes, at any depth.

* `Element.references`: the references of an element and of all that is in it;
* `MappedEntity.references`: the references that an entity has to be written with;
* `references_element`: its document has these and no others.
-/

namespace OrmMapping

namespace Element

/-- The tags of the elements that lead to an entity. -/
def relationshipTags : List String :=
  ["many-to-one", "one-to-one", "one-to-many", "many-to-many"]

/-- Whether an attribute of an element with this tag names another entity. -/
def isReference (tag name : String) : Bool :=
  name == "extends" || (name == "entity-name" && relationshipTags.contains tag)

/-- The references among the attributes of one element. -/
def attributeReferences (tag : String) (attributes : List (String × String)) : List String :=
  (attributes.filter fun a => isReference tag a.1).map (·.2)

mutual

/-- The references of an element and of all that is in it, in document order. -/
def references : Element → List String
  | .branch tag attributes children =>
    attributeReferences tag attributes ++ referencesAll children
  | .leaf tag attributes _ => attributeReferences tag attributes

/-- The references of several elements. -/
def referencesAll : List Element → List String
  | [] => []
  | e :: rest => references e ++ referencesAll rest

end

/-! ## Parts of an element -/

/-- No elements have no references. -/
@[simp] theorem referencesAll_nil : referencesAll [] = [] := rfl

/-- The references of the first element come before those of the others. -/
@[simp] theorem referencesAll_cons (e : Element) (rest : List Element) :
    referencesAll (e :: rest) = references e ++ referencesAll rest := rfl

/-- The references of several elements are those of each, one after the other. -/
theorem referencesAll_eq_flatMap (es : List Element) :
    referencesAll es = es.flatMap references := by
  induction es with
  | nil => rfl
  | cons e rest ih => rw [referencesAll, List.flatMap_cons, ih]

/-- The references of `xs` come before those of `ys`. -/
@[simp] theorem referencesAll_append (xs ys : List Element) :
    referencesAll (xs ++ ys) = referencesAll xs ++ referencesAll ys := by
  simp only [referencesAll_eq_flatMap, List.flatMap_append]

/-- Elements `f a` without references have none together. -/
theorem referencesAll_map_eq_nil {α : Type} {f : α → Element} (h : ∀ a, references (f a) = [])
    (as : List α) : referencesAll (as.map f) = [] := by
  rw [referencesAll_eq_flatMap, List.flatMap_map]
  exact List.flatMap_eq_nil_iff.mpr fun a _ => h a

/-- The references among `xs ++ ys` are those of `xs` before those of `ys`. -/
@[simp] theorem attributeReferences_append (tag : String) (xs ys : List (String × String)) :
    attributeReferences tag (xs ++ ys) =
      attributeReferences tag xs ++ attributeReferences tag ys := by
  simp [attributeReferences]

/-- Attributes that all have one `name` are all references or none is. -/
theorem attributeReferences_of_name {tag : String} (name : String)
    {attributes : List (String × String)} (hname : ∀ a ∈ attributes, a.1 = name) :
    attributeReferences tag attributes =
      if isReference tag name then attributes.map (·.2) else [] := by
  unfold attributeReferences
  cases htag : isReference tag name with
  | true =>
    have hall : ∀ a ∈ attributes, isReference tag a.1 = true :=
      fun a ha => by rw [hname a ha, htag]
    rw [List.filter_eq_self.mpr hall]
    rfl
  | false =>
    have hnone : ∀ a ∈ attributes, ¬ isReference tag a.1 = true :=
      fun a ha => by rw [hname a ha, htag]; exact Bool.false_ne_true
    rw [List.filter_eq_nil_iff.mpr hnone]
    rfl

end Element

namespace Layout

open Element

variable {tag name : String}

/-! ## Attributes -/

/-- Whether no element has a reference under this name. -/
def isPlain (name : String) : Bool :=
  name != "extends" && name != "entity-name"

/-- A plain name is that of no reference, whatever the `tag`. -/
theorem isReference_of_isPlain (tag : String) (hname : isPlain name = true) :
    isReference tag name = false := by
  simp only [isPlain, Bool.and_eq_true, bne_iff_ne] at hname
  simp [isReference, hname.1, hname.2]

/-- Attributes under a plain `name` are no references. -/
theorem references_plain (name : String) (hname : isPlain name = true)
    {attributes : List (String × String)} (hall : ∀ a ∈ attributes, a.1 = name) :
    attributeReferences tag attributes = [] := by
  rw [attributeReferences_of_name name hall, isReference_of_isPlain tag hname]
  rfl

/-- A text is a reference when its `name` is that of one. -/
theorem references_text (value : Option String) :
    attributeReferences tag (text name value) =
      if isReference tag name then value.toList else [] := by
  rw [attributeReferences_of_name name (by simp [text])]
  cases value <;> rfl

/-- A text under a plain name is no reference. -/
@[simp] theorem references_text_plain (hname : isPlain name = true) (value : Option String) :
    attributeReferences tag (text name value) = [] :=
  references_plain name hname (by simp [text])

/-- An identifier under a plain name is no reference. -/
@[simp] theorem references_identifier (hname : isPlain name = true) (quoteAll : Bool)
    (value : Option String) : attributeReferences tag (identifier quoteAll name value) = [] :=
  references_text_plain hname _

/-- A number under a plain name is no reference. -/
@[simp] theorem references_number (hname : isPlain name = true) (value : Option Int) :
    attributeReferences tag (number name value) = [] :=
  references_text_plain hname _

/-- A flag under a plain name is no reference, set or not. -/
@[simp] theorem references_whenTrue (hname : isPlain name = true) (value : Bool) :
    attributeReferences tag (whenTrue name value) = [] :=
  references_plain name hname (by cases value <;> simp [whenTrue])

/-- A flag that is written when it is not set is no reference under a plain name, either. -/
@[simp] theorem references_whenFalse (hname : isPlain name = true) (value : Bool) :
    attributeReferences tag (whenFalse name value) = [] :=
  references_plain name hname (by cases value <;> simp [whenFalse])

/-- Nor is one that is always written. -/
@[simp] theorem references_always (hname : isPlain name = true) (value : Bool) :
    attributeReferences tag (always name value) = [] :=
  references_plain name hname (by simp [always])

/-! ## Elements that refer to nothing -/

/-- The columns of a property refer to nothing. -/
@[simp] theorem references_column (quoteAll : Bool) (p : MappedProperty) :
    referencesAll (column quoteAll p) = [] := by
  apply referencesAll_map_eq_nil
  intro c
  simp (disch := decide) [references]

/-- The element of a property refers to nothing. -/
@[simp] theorem references_property (quoteAll : Bool) (p : MappedProperty) :
    references (property quoteAll p) = [] := by
  simp (disch := decide) [property, references]

/-- The element of a version refers to nothing. -/
@[simp] theorem references_version (quoteAll : Bool) (p : MappedProperty) :
    references (version quoteAll p) = [] := by
  simp (disch := decide) [version, references]

/-- A generator refers to nothing, whatever parameters it has. -/
@[simp] theorem references_generator (g : Generator) : references (generator g) = [] := by
  have hparameters : referencesAll ((parameters g).map parameter) = [] := by
    apply referencesAll_map_eq_nil
    intro param
    exact references_plain "name" (by decide) (by simp)
  rw [generator, references, hparameters, List.append_nil]
  exact references_plain "class" (by decide) (by simp)

/-- The element of a single identifier refers to nothing. -/
@[simp] theorem references_singleId (quoteAll : Bool) (p : MappedProperty) :
    references (singleId quoteAll p) = [] := by
  have hgenerator : referencesAll (p.generator.toList.map generator) = [] :=
    referencesAll_map_eq_nil references_generator _
  simp (disch := decide) [singleId, references, hgenerator]

/-- A part of a composite identifier refers to nothing. -/
@[simp] theorem references_keyProperty (quoteAll : Bool) (p : MappedProperty) :
    references (keyProperty quoteAll p) = [] := by
  simp (disch := decide) [keyProperty, references]

/-- The identifier of an entity refers to nothing, whatever parts `ps` it has. -/
theorem references_identity (quoteAll : Bool) (ps : List MappedProperty) :
    referencesAll (identity quoteAll ps) = [] := by
  -- none, a single one, and the parts of a composite one
  match ps with
  | [] => rfl
  | [p] => simp [identity]
  | p :: q :: rest =>
    have hkeys := referencesAll_map_eq_nil (references_keyProperty quoteAll) (p :: q :: rest)
    change referencesAll
      [.branch "composite-id" [] ((p :: q :: rest).map (keyProperty quoteAll))] = []
    rw [referencesAll_cons, references, hkeys]
    rfl

/-- A cache refers to nothing. -/
theorem references_cache (e : MappedEntity) : referencesAll (cache e) = [] := by
  apply referencesAll_map_eq_nil
  intro c
  simp (disch := decide) [references]

/-- A discriminator refers to nothing. -/
theorem references_discriminator (quoteAll : Bool) (e : MappedEntity) :
    referencesAll (discriminator quoteAll e) = [] := by
  unfold discriminator
  split
  · rfl
  · split
    · rfl
    · simp (disch := decide) [references]

/-- The columns of an entity refer to nothing. -/
theorem references_properties (quoteAll : Bool) (e : MappedEntity) :
    referencesAll (properties quoteAll e) = [] :=
  referencesAll_map_eq_nil (references_property quoteAll) _

/-- The key of a join refers to nothing. -/
@[simp] theorem references_joinKey (quoteAll : Bool) (p : Placement) :
    references (joinKey quoteAll p) = [] := by
  simp (disch := decide) [joinKey, references]

/-- A column in a collection refers to nothing. -/
@[simp] theorem references_collectionColumn (quoteAll : Bool) (tag : String)
    (c : CollectionColumn) : references (collectionColumn quoteAll tag c) = [] := by
  simp (disch := decide) [collectionColumn, references]

/-- The key of a collection refers to nothing. -/
@[simp] theorem references_collectionKey (quoteAll : Bool) (r : Association) :
    references (collectionKey quoteAll r) = [] := by
  simp (disch := decide) [collectionKey, references]

/-! ## Relationships -/

/-- The references that a relationship is written with: one, but for a collection of plain
values. -/
def associationReferences (r : Association) : List String :=
  if r.kind.isToMany && r.element.isSome then [] else [r.entityRef]

/-- A relationship is written with no other reference than `entityRef`. -/
theorem eq_entityRef_of_mem {r : Association} {reference : String}
    (h : reference ∈ associationReferences r) : reference = r.entityRef := by
  unfold associationReferences at h
  split at h
  · cases h
  · exact List.mem_singleton.mp h

/-- A many-to-one refers to its target. -/
theorem references_manyToOne (quoteAll : Bool) (p : MappedProperty) (r : Association) :
    references (manyToOne quoteAll p r) = [r.entityRef] := by
  simp (disch := decide) [manyToOne, references, references_text, isReference, relationshipTags]

/-- A one-to-one refers to its target. -/
theorem references_oneToOne (p : MappedProperty) (r : Association) :
    references (oneToOne p r) = [r.entityRef] := by
  simp (disch := decide) [oneToOne, references, references_text, isReference, relationshipTags]

/-- What a collection holds refers to the target, unless it is a column of plain values. -/
theorem references_collectionContent (quoteAll : Bool) (r : Association) :
    references (collectionContent quoteAll r) =
      if r.element.isSome then [] else [r.entityRef] := by
  unfold collectionContent
  -- a column of plain values leads to no entity
  cases r.element with
  | some c => simp
  | none =>
    by_cases hkind : r.kind = .manyToMany <;>
      simp (disch := decide) [hkind, references, references_text, isReference, relationshipTags]

/-- A collection refers to what it holds, and to nothing else. -/
theorem references_collection (quoteAll : Bool) (p : MappedProperty) (r : Association) :
    references (collection quoteAll p r) = if r.element.isSome then [] else [r.entityRef] := by
  have hmapKey :
      referencesAll (r.mapKey.toList.map (collectionColumn quoteAll "map-key")) = [] :=
    referencesAll_map_eq_nil (references_collectionColumn quoteAll "map-key") _
  simp (disch := decide) [collection, references, hmapKey, references_collectionContent]

/-- The element of a relationship has the references `associationReferences`, whatever its kind. -/
theorem references_association (quoteAll : Bool) (p : MappedProperty) (r : Association) :
    references (association quoteAll p r) = associationReferences r := by
  unfold association associationReferences
  cases hkind : r.kind with
  | manyToOne => exact references_manyToOne quoteAll p r
  | oneToOne => exact references_oneToOne p r
  | oneToMany => exact references_collection quoteAll p r
  | manyToMany => exact references_collection quoteAll p r

/-- The elements of relationships have the references of the relationships in order. -/
theorem references_associations (quoteAll : Bool) (ps : List MappedProperty) :
    referencesAll (associations quoteAll ps) =
      ps.flatMap fun p => p.association.toList.flatMap associationReferences := by
  rw [referencesAll_eq_flatMap, associations, List.flatMap_assoc]
  congr 1
  funext p
  rw [List.flatMap_map]
  congr 1
  funext r
  exact references_association quoteAll p r

/-! ## Entities -/

/-- The options of an entity refer to nothing. -/
theorem references_options (e : MappedEntity) : attributeReferences tag (options e) = [] := by
  simp (disch := decide) [options]

/-- The table of an entity and where it is kept refer to nothing. -/
theorem references_storage (quoteAll : Bool) (e : MappedEntity) :
    attributeReferences tag (storage quoteAll e) = [] := by
  simp (disch := decide) [storage]

end Layout

namespace MappedEntity

open Element Layout

/-- The references that an entity has to be written with: its parent, then the targets of its
relationships. -/
def references (e : MappedEntity) : List String :=
  e.placement.toList.map (·.entityRef) ++
    e.properties.flatMap fun p => p.association.toList.flatMap associationReferences

/-- The element of a class refers to the targets of its relationships, and to nothing else. -/
theorem references_classElement (quoteAll : Bool) (e : MappedEntity) :
    (classElement quoteAll e).references =
      e.properties.flatMap fun p => p.association.toList.flatMap associationReferences := by
  have hversion : referencesAll (e.version.toList.map (Layout.version quoteAll)) = [] :=
    referencesAll_map_eq_nil (references_version quoteAll) _
  simp (disch := decide) [classElement, classAttributes, Element.references, references_text,
    references_options, references_storage, references_cache, references_identity,
    references_discriminator, references_properties, references_associations, hversion,
    isReference, relationshipTags]

/-- The element of a subclass refers to its parent first, then to the targets of its
relationships. -/
theorem references_subclassElement (quoteAll : Bool) (e : MappedEntity) (p : Placement) :
    (subclassElement quoteAll e p).references =
      p.entityRef ::
        e.properties.flatMap fun p => p.association.toList.flatMap associationReferences := by
  -- with a discriminator value, in the table of the parent or in another one, and without a value
  unfold subclassElement
  split
  · unfold discriminatedElement
    split <;>
      simp (disch := decide) [Element.references, references_text, references_options,
        references_storage, references_properties, references_associations, isReference,
        relationshipTags]
  · simp (disch := decide) [joinedElement, Element.references, references_text,
      references_options, references_storage, references_properties, references_associations,
      isReference, relationshipTags]

/-- The element of an entity has the references `references` in either setting of `quoteAll`: its
parent and the targets of its relationships, and nothing else. -/
theorem references_element (e : MappedEntity) (quoteAll : Bool) :
    (e.element quoteAll).references = e.references := by
  unfold element references
  cases e.placement with
  | some p => exact references_subclassElement quoteAll e p
  | none => exact references_classElement quoteAll e

end MappedEntity

end OrmMapping
