import OrmMapping.Proofs.Document.Classes
import OrmMapping.Proofs.Entity.Storage

/-!
# The documents of subclasses

A subclass is written under its parent. With a discriminator value it is a `subclass`, otherwise a
`joined-subclass`. Whether it needs a column that joins its table to the parent's is settled twice:
when the class is mapped, from its table and its discriminator value, and again when it is written.
The two agree, so that a key that is written has a column.

* `Element.IsKey`: the element of a column that joins two tables;
* `SubclassLayout`: the parts of a subclass at each of the places that it can have;
* `subclassLayout_joinedElement`, `subclassLayout_discriminatedElement`: what is written;
* `subclassLayout_of_yields`: the document of every mapped class that has a parent.
-/

namespace OrmMapping

open Layout Element

variable {d : Descriptor} {fallback : Option String} {e : MappedEntity} {p : Placement}
  {quoteAll : Bool}

/-! ## What the layout is -/

/-- An element is the key of a column that joins two tables. -/
def Element.IsKey (quoteAll : Bool) (column : Option String) (x : Element) : Prop :=
  x.tag = "key" ∧ ∃ name, column = some name ∧
    x.attribute? "column" = some (quoteIdentifier quoteAll name)

/-- The discriminator value of an entity. -/
def MappedEntity.discriminatorValue (e : MappedEntity) : Option String :=
  e.discriminator.bind (·.value)

/-- The element of a subclass has what the place of the subclass asks for, and leaves what belongs
to the root of the hierarchy to it. Each property of the subclass stands in it once. -/
structure SubclassLayout (e : MappedEntity) (p : Placement) (quoteAll : Bool) (x : Element) :
    Prop where
  tag : x.tag = if e.discriminatorValue.isSome then "subclass" else "joined-subclass"
  lacks : x.Lacks rootTags
  joined : e.discriminatorValue = none →
    ∃ key rest, x.children = key :: rest ∧ key.IsKey quoteAll p.joinColumn ∧
      rest.map heading = columnParts e ++ relationshipParts e.properties
  shared : e.discriminatorValue.isSome = true → e.tableName = p.parentTable →
    x.children.map heading = columnParts e ++ relationshipParts e.properties ∧
      ∀ y ∈ x.children, y.tag ≠ "key" ∧ y.tag ≠ "join"
  separate : e.discriminatorValue.isSome = true → e.tableName ≠ p.parentTable →
    ∃ relationships join key columns, x.children = relationships ++ [join] ∧
      relationships.map heading = relationshipParts e.properties ∧
      join.tag = "join" ∧ join.children = key :: columns ∧ key.IsKey quoteAll p.joinColumn ∧
      columns.map heading = columnParts e
  names : x.propertyNames.Perm (e.properties.map (·.name))
  once : ∀ q ∈ e.properties, x.propertyNames.count q.name = 1

/-! ## What is written -/

/-- The key of a placement with a join column is the key of that column. -/
theorem isKey_joinKey (hcolumn : p.joinColumn.isSome = true) :
    (joinKey quoteAll p).IsKey quoteAll p.joinColumn := by
  obtain ⟨name, hname⟩ := Option.isSome_iff_exists.mp hcolumn
  refine ⟨rfl, name, hname, ?_⟩
  rw [joinKey, Element.attribute?, Element.attributes, lookup_identifier, if_pos rfl, hname,
    Option.map_some]

/-- The key of a join stands for no property. -/
theorem propertyNames_joinKey : (joinKey quoteAll p).propertyNames = [] := by
  simp [joinKey, propertyNames_branch, propertyTags]

/-- The columns and relationships of a sound entity are neither keys nor joins. -/
theorem tag_ne_of_mem (hsound : e.Sound) :
    ∀ y ∈ properties quoteAll e ++ associations quoteAll e.properties,
      y.tag ≠ "key" ∧ y.tag ≠ "join" := by
  refine List.forall_mem_append.mpr ⟨?_, ?_⟩
  · refine (forall_mem_properties quoteAll e).mpr fun q _ => ?_
    simp [property, Element.tag]
  · refine (forall_mem_associations quoteAll).mpr fun q hq r hr => ?_
    have hcollection : r.collectionTag ≠ "key" ∧ r.collectionTag ≠ "join" := by
      rcases hsound.tags q hq r hr with htag | htag <;> rw [htag] <;> decide
    rw [tag_association]
    constructor
    · exact associationTag_ne r (by decide) hcollection.1
    · exact associationTag_ne r (by decide) hcollection.2

/-- Nothing of the root of a hierarchy stands in the columns and relationships of a sound entity. -/
theorem lacks_of_mem (hsound : e.Sound) :
    ∀ y ∈ properties quoteAll e ++ associations quoteAll e.properties, y.Lacks rootTags := by
  refine List.forall_mem_append.mpr ⟨?_, ?_⟩
  · exact (forall_mem_properties quoteAll e).mpr fun q _ => lacks_property quoteAll q
  · refine (forall_mem_associations quoteAll).mpr fun q hq r hr => ?_
    exact lacks_association quoteAll q r (hsound.tags q hq r hr)

/-- Nothing of the root stands in a joined subclass. -/
theorem lacks_joinedElement (hsound : e.Sound) : (joinedElement quoteAll e p).Lacks rootTags := by
  refine lacks_branch.mpr ⟨by decide, fun y hy => ?_⟩
  rcases List.mem_cons.mp hy with rfl | hy
  · exact lacks_joinKey quoteAll p
  · exact lacks_of_mem hsound y hy

/-- Nothing of the root stands in a subclass with a discriminator value, with a join or without. -/
theorem lacks_discriminatedElement (hsound : e.Sound) :
    (discriminatedElement quoteAll e p).Lacks rootTags := by
  refine lacks_branch.mpr ⟨by decide, fun y hy => ?_⟩
  split at hy
  · exact lacks_of_mem hsound y hy
  · rcases List.mem_append.mp hy with hy | hy
    · exact lacks_of_mem hsound y (List.mem_append_right _ hy)
    · -- the columns stand in a join
      rw [List.mem_singleton.mp hy]
      refine lacks_branch.mpr ⟨by decide, fun z hz => ?_⟩
      rcases List.mem_cons.mp hz with rfl | hz
      · exact lacks_joinKey quoteAll p
      · exact lacks_of_mem hsound z (List.mem_append_left _ hz)

/-- In a joined subclass stand the names of its properties, in some order. -/
theorem propertyNames_joinedElement (hsound : e.Sound) :
    (joinedElement quoteAll e p).propertyNames.Perm (e.properties.map (·.name)) := by
  have hnames : (joinedElement quoteAll e p).propertyNames =
      (e.columnProperties ++ e.associations).map (·.name) := by
    simp [joinedElement, propertyNames_branch, propertyTags, propertyNames_joinKey,
      propertyNames_properties, propertyNames_associations quoteAll hsound.tags,
      MappedEntity.associations]
  rw [hnames]
  exact (perm_columnProperties_associations e).map _

/-- In a subclass with a discriminator value stand the names of its properties, in some order. -/
theorem propertyNames_discriminatedElement (hsound : e.Sound) :
    (discriminatedElement quoteAll e p).propertyNames.Perm (e.properties.map (·.name)) := by
  have hperm := perm_columnProperties_associations e
  have hassociations := propertyNames_associations quoteAll hsound.tags
  unfold discriminatedElement
  split
  · refine .trans (.of_eq ?_) (hperm.map (·.name))
    simp [propertyNames_branch, propertyTags, propertyNames_properties, hassociations,
      MappedEntity.associations]
  · -- the relationships come first
    refine .trans (.of_eq ?_) ((List.perm_append_comm.trans hperm).map (·.name))
    simp [propertyNames_branch, propertyTags, propertyNames_joinKey, propertyNames_properties,
      hassociations, MappedEntity.associations]

/-! ## The layouts -/

/-- The placement of a sound entity has a discriminator value exactly when the entity has one. -/
theorem isDiscriminated_eq (hsound : e.Sound) (hp : e.placement = some p) :
    p.isDiscriminated = e.discriminatorValue.isSome :=
  congrArg Option.isSome (hsound.value p hp)

/-- A subclass without a discriminator value has the layout that its place asks for; by soundness it
has a column to be joined on. -/
theorem subclassLayout_joinedElement (hsound : e.Sound) (hp : e.placement = some p)
    (hvalue : e.discriminatorValue = none) :
    SubclassLayout e p quoteAll (joinedElement quoteAll e p) := by
  have hnames : (joinedElement quoteAll e p).propertyNames.Perm (e.properties.map (·.name)) :=
    propertyNames_joinedElement hsound
  have hneeds : p.needsKey e.tableName = true := by
    rw [Placement.needsKey, isDiscriminated_eq hsound hp, hvalue]
    rfl
  constructor
  case tag => rw [hvalue]; rfl
  case lacks => exact lacks_joinedElement hsound
  case joined =>
    intro _
    refine ⟨joinKey quoteAll p, properties quoteAll e ++ associations quoteAll e.properties, rfl,
      isKey_joinKey (hsound.key p hp hneeds), ?_⟩
    rw [List.map_append, heading_properties, heading_associations]
  case shared =>
    intro hsome
    rw [hvalue] at hsome
    cases hsome
  case separate =>
    intro hsome
    rw [hvalue] at hsome
    cases hsome
  case names => exact hnames
  case once => exact count_propertyNames hnames hsound.nodup_properties

/-- A subclass with a discriminator value has the layout that its place asks for; by soundness it
has a join column where it is kept in another table than its parent. -/
theorem subclassLayout_discriminatedElement (hsound : e.Sound) (hp : e.placement = some p)
    (hvalue : e.discriminatorValue.isSome = true) :
    SubclassLayout e p quoteAll (discriminatedElement quoteAll e p) := by
  have hnames : (discriminatedElement quoteAll e p).propertyNames.Perm
      (e.properties.map (·.name)) := propertyNames_discriminatedElement hsound
  constructor
  case tag => rw [hvalue]; rfl
  case lacks => exact lacks_discriminatedElement hsound
  case joined =>
    intro hnone
    rw [hnone] at hvalue
    cases hvalue
  case shared =>
    intro _ htable
    have hchildren : (discriminatedElement quoteAll e p).children =
        properties quoteAll e ++ associations quoteAll e.properties := by
      simp [discriminatedElement, Element.children, htable]
    rw [hchildren, List.map_append, heading_properties, heading_associations]
    exact ⟨rfl, tag_ne_of_mem hsound⟩
  case separate =>
    -- another table than the parent's is what `needsKey` asks for
    intro _ htable
    have hneeds : p.needsKey e.tableName = true := by
      simp [Placement.needsKey, htable]
    refine ⟨associations quoteAll e.properties, .branch "join" (storage quoteAll e)
      (joinKey quoteAll p :: properties quoteAll e), joinKey quoteAll p, properties quoteAll e, ?_,
      heading_associations quoteAll e.properties, rfl, rfl,
      isKey_joinKey (hsound.key p hp hneeds), heading_properties quoteAll e⟩
    simp [discriminatedElement, Element.children, htable]
  case names => exact hnames
  case once => exact count_propertyNames hnames hsound.nodup_properties

/-- The document of a mapped class that has a parent is laid out as its place `p` asks for, whether
its references are resolved or not. -/
theorem subclassLayout_of_yields {document : Document} (h : MappedEntity.Yields d fallback e)
    (hp : e.placement = some p) (hdocument : e.document quoteAll = .ok document) :
    SubclassLayout e p quoteAll document.entity := by
  have hsound := MappedEntity.sound_of_yields h
  have helement : e.element quoteAll = subclassElement quoteAll e p := by
    unfold MappedEntity.element
    rw [hp]
  rw [entity_of_document hdocument, helement, subclassElement, isDiscriminated_eq hsound hp]
  -- the value that the entity has decides between the two tags
  cases hsome : e.discriminatorValue with
  | none => exact subclassLayout_joinedElement hsound hp hsome
  | some value =>
    exact subclassLayout_discriminatedElement hsound hp (by rw [hsome]; rfl)

/-- Trucks, which are told from other vehicles by a value and have a table of their own. -/
def truckDescriptor : Descriptor :=
  .extending {
    name := "Truck"
    annotations := [("entity", .str ""), ("discriminator", .str "T"), ("table", .str "trucks")]
    properties := [{ name := "load" }] } (some MappedEntity.vehicleDescriptor)

/-- The place of trucks, which are joined on the identifier of the vehicle. -/
def truckPlacement : Placement where
  parent := "Vehicle"
  parentTable := "vehicles"
  joinColumn := some "id"
  discriminatorValue := some "T"

/-- Trucks have a discriminator value and another table than vehicles, so their columns stand in a
join. -/
theorem subclassLayout_of_yields_truck :
    ∃ e document, MappedEntity.Yields truckDescriptor none e ∧
      e.placement = some truckPlacement ∧ e.document false = .ok document ∧
      SubclassLayout e truckPlacement false document.entity ∧
      e.discriminatorValue = some "T" ∧ e.tableName ≠ truckPlacement.parentTable ∧
      document.entity.propertyNames.count "load" = 1 := by
  have hmapped : (MappedEntity.ofDescriptor truckDescriptor none).outcome.toOption.map (fun e =>
      ((e.placement, (e.document false).toOption.isSome),
        (e.discriminatorValue, e.tableName, e.properties.map (·.name)))) =
          some ((some truckPlacement, true), (some "T", "trucks", ["load"])) := by
    decide +kernel
  obtain ⟨e, hoption, hparts⟩ := Option.map_eq_some_iff.mp hmapped
  obtain ⟨hwritten, hread⟩ := Prod.mk.inj hparts
  obtain ⟨hp, hsome⟩ := Prod.mk.inj hwritten
  obtain ⟨hvalue, htable, hnames⟩ := by simpa only [Prod.mk.injEq] using hread
  obtain ⟨document, hdocument⟩ := Option.isSome_iff_exists.mp hsome
  have hyields : MappedEntity.Yields truckDescriptor none e :=
    ⟨e, eq_ok_of_toOption hoption, Or.inl rfl⟩
  have hdocument := eq_ok_of_toOption hdocument
  have hlayout := subclassLayout_of_yields hyields hp hdocument
  obtain ⟨load, hload, hname⟩ : ∃ q ∈ e.properties, q.name = "load" := by
    rw [← List.mem_map, hnames]
    exact List.mem_singleton_self _
  refine ⟨e, document, hyields, hp, hdocument, hlayout, hvalue, ?_, ?_⟩
  · rw [htable]
    decide
  · rw [← hname]
    exact hlayout.once load hload

end OrmMapping
