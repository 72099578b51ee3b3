import Mathlib.Data.List.Nodup
import OrmMapping.Document.Layout

/-!
# Outlines of elements

What can be seen of an element without reading all of it: the elements that stand in it at any
depth, their tags, and the names under which they stand for properties. The elements of columns and
of parameters have names too, but these are no properties.

* `Element.within`: an element and all that is in it;
* `Element.heading`: its tag and its name;
* `Element.propertyNames`: the properties that stand in an element;
* `Element.Lacks`: no element of some tags stands in it;
* `heading_property`, `propertyNames_property`, …: the outlines of the parts of a document;
* `rootTags`, `lacks_property`, …: the parts that stand in the elements of subclasses, too.
-/

namespace OrmMapping

namespace Element

mutual

/-- An element and all that is in it, in document order. -/
def within : Element → List Element
  | .branch tag attributes children => .branch tag attributes children :: withinAll children
  | .leaf tag attributes text => [.leaf tag attributes text]

/-- Several elements and all that is in them. -/
def withinAll : List Element → List Element
  | [] => []
  | e :: rest => within e ++ withinAll rest

end

/-- What is within several elements is what is within each, one after the other. -/
theorem withinAll_eq_flatMap (es : List Element) : withinAll es = es.flatMap within := by
  induction es with
  | nil => rfl
  | cons e rest ih => rw [withinAll, List.flatMap_cons, ih]

/-- Within a branch are itself and what is within its `children`. -/
theorem within_branch (tag : String) (attributes : List (String × String))
    (children : List Element) :
    (branch tag attributes children).within =
      branch tag attributes children :: children.flatMap within := by
  rw [within, withinAll_eq_flatMap]

/-- The tag of an element, and its name if it has one. -/
def heading (x : Element) : String × Option String :=
  (x.tag, x.attribute? "name")

/-- The tags of the elements that stand for a property. -/
def propertyTags : List String :=
  ["id", "key-property", "version", "property", "many-to-one", "one-to-one", "map", "bag"]

/-- The name of the property that an element stands for. -/
def property? (x : Element) : Option String :=
  if x.tag ∈ propertyTags then x.attribute? "name" else none

/-- The names of the properties that stand in an element, in document order. -/
def propertyNames (x : Element) : List String :=
  x.within.filterMap property?

/-- No element of some tags stands in an element. -/
def Lacks (tags : List String) (x : Element) : Prop :=
  ∀ y ∈ x.within, y.tag ∉ tags

/-- The names in a branch are its own name, if its `tag` is that of a property, and those in its
`children`. -/
theorem propertyNames_branch (tag : String) (attributes : List (String × String))
    (children : List Element) :
    (branch tag attributes children).propertyNames =
      (if tag ∈ propertyTags then (attributes.lookup "name").toList else []) ++
        children.flatMap propertyNames := by
  have hself : (branch tag attributes children).property? =
      if tag ∈ propertyTags then attributes.lookup "name" else none := rfl
  rw [propertyNames, within_branch, List.filterMap_cons, hself, List.filterMap_flatMap]
  by_cases htag : tag ∈ propertyTags
  · rw [if_pos htag, if_pos htag]
    cases attributes.lookup "name" <;> rfl
  · rw [if_neg htag, if_neg htag]
    rfl

/-- A branch lacks some `tags` when its own tag is none of them and its `children` lack them. -/
theorem lacks_branch {tags : List String} {tag : String} {attributes : List (String × String)}
    {children : List Element} :
    (branch tag attributes children).Lacks tags ↔ tag ∉ tags ∧ ∀ x ∈ children, x.Lacks tags := by
  rw [Lacks, within_branch]
  constructor
  · intro h
    refine ⟨h _ List.mem_cons_self, fun x hx y hy => ?_⟩
    exact h y (List.mem_cons_of_mem _ (List.mem_flatMap.mpr ⟨x, hx, hy⟩))
  · rintro ⟨htag, hchildren⟩ y hy
    rcases List.mem_cons.mp hy with rfl | hy
    · exact htag
    · obtain ⟨x, hx, hy⟩ := List.mem_flatMap.mp hy
      exact hchildren x hx y hy

end Element

namespace Layout

open Element

/-! ## Attributes -/

section Attributes

variable (name key : String) (quoteAll : Bool)

/-- A single attribute is found under its own name only. -/
theorem lookup_singleton (value : String) :
    [(name, value)].lookup key = if key = name then some value else none := by
  by_cases h : key = name
  · simp [h]
  · rw [List.lookup_cons, beq_eq_false_iff_ne.mpr h, if_neg h]
    rfl

/-- Under its `name` a text is found as it is, if there is one. -/
@[simp] theorem lookup_text (value : Option String) :
    (text name value).lookup key = if key = name then value else none := by
  cases value with
  | none => simp [text]
  | some v => exact lookup_singleton name key v

/-- Under its `name` an identifier is found as `quoteIdentifier` writes it, if there is one. -/
@[simp] theorem lookup_identifier (value : Option String) :
    (identifier quoteAll name value).lookup key =
      if key = name then value.map (quoteIdentifier quoteAll) else none :=
  lookup_text name key _

/-- Under its `name` a flag that is written when it is set is found as `true`. -/
@[simp] theorem lookup_whenTrue (value : Bool) :
    (whenTrue name value).lookup key =
      if key = name then if value then some "true" else none else none := by
  cases value with
  | false => simp [whenTrue]
  | true => exact lookup_singleton name key "true"

/-- Under its `name` a flag that is written when it is not set is found as `false`. -/
@[simp] theorem lookup_whenFalse (value : Bool) :
    (whenFalse name value).lookup key =
      if key = name then if value then none else some "false" else none := by
  cases value with
  | false => exact lookup_singleton name key "false"
  | true => simp [whenFalse]

end Attributes

variable (quoteAll : Bool) (p : MappedProperty) (r : Association)

/-! ## Properties -/

/-- The heading of a branch is read from its tag and its attributes only. -/
theorem heading_branch (tag : String) (attributes : List (String × String))
    (children : List Element) :
    (Element.branch tag attributes children).heading = (tag, attributes.lookup "name") := rfl

/-- A column is headed by `property` and the name of the property. -/
theorem heading_property : (property quoteAll p).heading = ("property", some p.name) := by
  simp [property, heading_branch, List.lookup_append]

/-- A version is headed by `version` and the name of the property. -/
theorem heading_version : (version quoteAll p).heading = ("version", some p.name) := by
  simp [version, heading_branch, List.lookup_append]

/-- A single identifier is headed by `id` and the name of the property. -/
theorem heading_singleId : (singleId quoteAll p).heading = ("id", some p.name) := by
  simp [singleId, heading_branch, List.lookup_append]

/-- A part of a composite identifier is headed by `key-property` and the name of the property. -/
theorem heading_keyProperty :
    (keyProperty quoteAll p).heading = ("key-property", some p.name) := by
  simp [keyProperty, heading_branch, List.lookup_append]

/-- The names of columns are not those of properties. -/
theorem propertyNames_column : (column quoteAll p).flatMap propertyNames = [] := by
  rw [List.flatMap_eq_nil_iff]
  intro x hx
  obtain ⟨c, -, rfl⟩ := List.mem_map.mp hx
  simp [propertyNames_branch, propertyTags]

/-- In the element of a column stands the one name of the property. -/
theorem propertyNames_property : (property quoteAll p).propertyNames = [p.name] := by
  simp [property, propertyNames_branch, propertyNames_column, propertyTags, List.lookup_append]

/-- In the element of a version stands the one name of the property. -/
theorem propertyNames_version : (version quoteAll p).propertyNames = [p.name] := by
  simp [version, propertyNames_branch, propertyNames_column, propertyTags, List.lookup_append]

/-- The names of parameters are not those of properties. -/
theorem propertyNames_generator (g : Generator) : (generator g).propertyNames = [] := by
  have hparameter : ∀ param, (parameter param).propertyNames = [] := fun _ => rfl
  simp [generator, propertyNames_branch, propertyTags, List.flatMap_map, hparameter]

/-- In the element of a single identifier stands the one name of the property, with or without a
generator. -/
theorem propertyNames_singleId : (singleId quoteAll p).propertyNames = [p.name] := by
  simp [singleId, propertyNames_branch, propertyNames_column, propertyTags, List.lookup_append,
    List.flatMap_map, propertyNames_generator]

/-- In a part of a composite identifier stands the one name of the property. -/
theorem propertyNames_keyProperty : (keyProperty quoteAll p).propertyNames = [p.name] := by
  simp [keyProperty, propertyNames_branch, propertyNames_column, propertyTags, List.lookup_append]

/-! ## Relationships -/

/-- The tag of the element of a relationship. -/
def associationTag : String :=
  match r.kind with
  | .manyToOne => "many-to-one"
  | .oneToOne => "one-to-one"
  | .oneToMany | .manyToMany => r.collectionTag

/-- A tag that neither the relationships to one entity nor a collection has is none of a
relationship. -/
theorem associationTag_ne {tag : String} (hsingle : tag ∉ ["many-to-one", "one-to-one"])
    (hcollection : r.collectionTag ≠ tag) : associationTag r ≠ tag := by
  simp only [List.mem_cons, List.not_mem_nil, or_false, not_or] at hsingle
  unfold associationTag
  cases r.kind with
  | manyToOne => exact Ne.symm hsingle.1
  | oneToOne => exact Ne.symm hsingle.2
  | oneToMany => exact hcollection
  | manyToMany => exact hcollection

/-- A relationship is headed by `associationTag` and the name of the property, whatever its kind. -/
theorem heading_association :
    (association quoteAll p r).heading = (associationTag r, some p.name) := by
  unfold association associationTag
  cases r.kind <;>
    simp [manyToOne, oneToOne, collection, heading_branch, List.lookup_append]

/-- The element of a relationship has the tag `associationTag`. -/
theorem tag_association : (association quoteAll p r).tag = associationTag r :=
  congrArg Prod.fst (heading_association quoteAll p r)

/-- What a collection holds stands for no property. -/
theorem propertyNames_collectionContent : (collectionContent quoteAll r).propertyNames = [] := by
  unfold collectionContent
  cases r.element with
  | some c => simp [collectionColumn, propertyNames_branch, propertyTags]
  | none =>
    by_cases hkind : r.kind = .manyToMany <;> simp [hkind, propertyNames_branch, propertyTags]

/-- In the element of a relationship stands the one name of the property. By `htag` the tag of a
collection is one that stands for a property. -/
theorem propertyNames_association (htag : r.collectionTag = "map" ∨ r.collectionTag = "bag") :
    (association quoteAll p r).propertyNames = [p.name] := by
  -- the key, the key of a map and the content stand for no property, so the name of the collection
  -- is the only one
  have hcollection : (collection quoteAll p r).propertyNames = [p.name] := by
    have hproperty : r.collectionTag ∈ propertyTags := by
      rcases htag with htag | htag <;> rw [htag] <;> decide
    have hkey : (collectionKey quoteAll r).propertyNames = [] := by
      simp [collectionKey, propertyNames_branch, propertyTags]
    have hmapKey : (r.mapKey.toList.map (collectionColumn quoteAll "map-key")).flatMap
        propertyNames = [] := by
      rw [List.flatMap_eq_nil_iff]
      intro x hx
      obtain ⟨c, -, rfl⟩ := List.mem_map.mp hx
      simp [collectionColumn, propertyNames_branch, propertyTags]
    simp [collection, propertyNames_branch, hproperty, hkey, hmapKey,
      propertyNames_collectionContent, List.lookup_append]
  unfold association
  cases r.kind with
  | manyToOne => simp [manyToOne, propertyNames_branch, propertyTags, List.lookup_append]
  | oneToOne => simp [oneToOne, propertyNames_branch, propertyTags, List.lookup_append]
  | oneToMany => exact hcollection
  | manyToMany => exact hcollection

/-- What holds of the elements of relationships holds of the element of each relationship, and the
other way round. -/
theorem forall_mem_associations {P : Element → Prop} {ps : List MappedProperty} :
    (∀ x ∈ associations quoteAll ps, P x) ↔
      ∀ p ∈ ps, ∀ r ∈ p.association, P (association quoteAll p r) := by
  simp only [associations, List.forall_mem_flatMap, List.forall_mem_map, Option.mem_toList,
    Option.mem_def]

/-- The headings of the relationships among some properties, in order. -/
def relationshipParts (ps : List MappedProperty) : List (String × Option String) :=
  ps.flatMap fun p => p.association.toList.map fun r => (associationTag r, some p.name)

/-- The elements of relationships have the headings `relationshipParts`. -/
theorem heading_associations (ps : List MappedProperty) :
    (associations quoteAll ps).map heading = relationshipParts ps := by
  simp only [associations, relationshipParts, List.map_flatMap, List.map_map, Function.comp_def,
    heading_association]

/-- In the elements of relationships stand the names of the properties that are relationships, in
order. -/
theorem propertyNames_associations {ps : List MappedProperty}
    (htags : ∀ p ∈ ps, ∀ r ∈ p.association, r.collectionTag = "map" ∨ r.collectionTag = "bag") :
    (associations quoteAll ps).flatMap propertyNames =
      (ps.filter (·.association.isSome)).map (·.name) := by
  induction ps with
  | nil => rfl
  | cons p rest ih =>
    obtain ⟨hp, hrest⟩ := List.forall_mem_cons.mp htags
    have hfirst : associations quoteAll (p :: rest) =
        p.association.toList.map (association quoteAll p) ++ associations quoteAll rest := rfl
    rw [hfirst, List.flatMap_append, ih hrest]
    cases hassociation : p.association with
    | none => simp [hassociation]
    | some r =>
      simp [hassociation, propertyNames_association quoteAll p r (hp r hassociation)]

/-! ## Entities -/

variable (e : MappedEntity)

/-- What holds of the elements of columns holds of the element of each column property, and the
other way round. -/
theorem forall_mem_properties {P : Element → Prop} :
    (∀ x ∈ properties quoteAll e, P x) ↔ ∀ p ∈ e.columnProperties, P (property quoteAll p) :=
  List.forall_mem_map

/-- The headings of the columns of an entity, in order. -/
def columnParts : List (String × Option String) :=
  e.columnProperties.map fun p => ("property", some p.name)

/-- The elements of columns have the headings `columnParts`. -/
theorem heading_properties : (properties quoteAll e).map heading = columnParts e := by
  simp only [properties, columnParts, List.map_map, Function.comp_def, heading_property]

/-- In the elements of columns stand the names of the column properties, in order. -/
theorem propertyNames_properties :
    (properties quoteAll e).flatMap propertyNames = e.columnProperties.map (·.name) := by
  simp only [properties, List.flatMap_map, propertyNames_property, ← List.map_eq_flatMap]

/-- There is an element `cache` exactly when the entity has one. -/
theorem heading_cache :
    (cache e).map heading = if e.cache.isSome then [("cache", none)] else [] := by
  unfold cache
  cases e.cache with
  | none => rfl
  | some c => simp [heading_branch, List.lookup_append]

/-- The cache stands for no property. -/
theorem propertyNames_cache : (cache e).flatMap propertyNames = [] := by
  unfold cache
  cases e.cache with
  | none => rfl
  | some c => simp [propertyNames_branch, propertyTags]

/-- There is an element `discriminator` exactly when it has a column or a formula. -/
theorem heading_discriminator :
    (discriminator quoteAll e).map heading =
      if e.discriminator.any fun d => d.column.isSome || d.formula.isSome then
        [("discriminator", none)]
      else [] := by
  unfold discriminator
  cases e.discriminator with
  | none => rfl
  | some d =>
    -- one of the two is enough for the element
    cases hcolumn : d.column <;> cases hformula : d.formula <;>
      simp [hcolumn, hformula, heading_branch, List.lookup_append]

/-- The discriminator stands for no property. -/
theorem propertyNames_discriminator : (discriminator quoteAll e).flatMap propertyNames = [] := by
  unfold discriminator
  split
  · rfl
  · split
    · rfl
    · simp [propertyNames_branch, propertyTags]

/-- In the identifier of an entity stand the names of all its parts `ps`, whether it is single,
composite or empty. -/
theorem propertyNames_identity (ps : List MappedProperty) :
    (identity quoteAll ps).flatMap propertyNames = ps.map (·.name) := by
  match ps with
  | [] => rfl
  | [p] => simp [identity, propertyNames_singleId]
  | p :: q :: rest =>
    simp [identity, propertyNames_branch, propertyTags, List.flatMap_map,
      propertyNames_keyProperty, ← List.map_eq_flatMap]

/-- In the element of the version, if there is one, stands its name. -/
theorem propertyNames_versions (version? : Option MappedProperty) :
    (version?.toList.map (version quoteAll)).flatMap propertyNames =
      version?.toList.map (·.name) := by
  cases version? with
  | none => rfl
  | some p => simp [propertyNames_version]

/-- The column properties and the relationships are all properties, each once. -/
theorem perm_columnProperties_associations :
    (e.columnProperties ++ e.associations).Perm e.properties := by
  have hassociations : e.associations = e.properties.filter fun p => !p.association.isNone := by
    refine List.filter_congr fun p _ => ?_
    cases p.association <;> rfl
  rw [hassociations]
  exact List.filter_append_perm _ _

/-- If the names in `x` are those of `ps` in some order, and no two of `ps` have one name, then each
name stands in `x` once. -/
theorem count_propertyNames {x : Element} {ps : List MappedProperty}
    (hwritten : x.propertyNames.Perm (ps.map (·.name))) (hnodup : (ps.map (·.name)).Nodup) :
    ∀ p ∈ ps, x.propertyNames.count p.name = 1 := by
  intro p hp
  have hmem : p.name ∈ x.propertyNames := hwritten.mem_iff.mpr (List.mem_map_of_mem hp)
  exact List.count_eq_one_of_mem (hwritten.nodup_iff.mpr hnodup) hmem

/-! ## What only the root of a hierarchy has -/

/-- The tags of the elements that stand only in the element of an entity without a parent. -/
def rootTags : List String :=
  ["id", "composite-id", "version", "cache", "discriminator"]

/-- Nothing of the root stands in the element of a column. -/
theorem lacks_property : (property quoteAll p).Lacks rootTags := by
  refine lacks_branch.mpr ⟨by decide, fun x hx => ?_⟩
  obtain ⟨c, -, rfl⟩ := List.mem_map.mp hx
  exact lacks_branch.mpr ⟨by decide, by simp⟩

/-- Nothing of the root stands in the key of a join. -/
theorem lacks_joinKey (placement : Placement) : (joinKey quoteAll placement).Lacks rootTags :=
  lacks_branch.mpr ⟨by decide, by simp⟩

/-- Nothing of the root stands in what a collection holds. -/
theorem lacks_collectionContent : (collectionContent quoteAll r).Lacks rootTags := by
  unfold collectionContent
  split
  · exact lacks_branch.mpr ⟨by decide, by simp⟩
  · split
    · exact lacks_branch.mpr ⟨by decide, by simp⟩
    · exact lacks_branch.mpr ⟨by decide, by simp⟩

/-- Nothing of the root stands in the element of a relationship. `htag` bars a collection with such
a tag. -/
theorem lacks_association (htag : r.collectionTag = "map" ∨ r.collectionTag = "bag") :
    (association quoteAll p r).Lacks rootTags := by
  -- a collection is the only relationship with elements in it
  have hcollection : (collection quoteAll p r).Lacks rootTags := by
    refine lacks_branch.mpr ⟨?_, fun x hx => ?_⟩
    · rcases htag with htag | htag <;> rw [htag] <;> decide
    · rcases List.mem_cons.mp hx with rfl | hx
      · exact lacks_branch.mpr ⟨by decide, by simp⟩
      · rcases List.mem_append.mp hx with hx | hx
        · obtain ⟨c, -, rfl⟩ := List.mem_map.mp hx
          exact lacks_branch.mpr ⟨by decide, by simp⟩
        · rw [List.mem_singleton.mp hx]
          exact lacks_collectionContent quoteAll r
  unfold association
  cases r.kind with
  | manyToOne => exact lacks_branch.mpr ⟨by decide, by simp⟩
  | oneToOne => exact lacks_branch.mpr ⟨by decide, by simp⟩
  | oneToMany => exact hcollection
  | manyToMany => exact hcollection

end Layout

end OrmMapping
