import OrmMapping.Proofs.Document.Outline
import OrmMapping.Proofs.Entity.Soundness

/-!
# The documents of classes

An entity without a parent is written as a `class`. Readers of the document expect the parts of a
class in a fixed order, and each property in one place: the identifier comes before the
discriminator and the version, then come the columns and then the relationships, however the
declarations of these are mixed.

* `IdentityLayout`: how the identifier of an entity is written;
* `ClassLayout`: the order of the parts of a class, and where its properties stand;
* `classLayout_classElement`: what the element of a sound entity is like;
* `classLayout_of_yields`: the document of every mapped class that has no parent.
-/

namespace OrmMapping

open Layout Element

variable {d : Descriptor} {fallback : Option String} {e : MappedEntity}

/-! ## What the layout is -/

/-- A single identifier is one element, with the parameters of its generator in order: its key and
its sequence before those of its own. Several identifiers are the parts of one element. -/
structure IdentityLayout (ids : List MappedProperty) (x : Element) : Prop where
  single : ∀ p, ids = [p] → x.heading = ("id", some p.name) ∧
    x.children.filter (·.tag == "generator") = p.generator.toList.map fun g =>
      .branch "generator" [("class", g.strategy)]
        ((g.selectKey.toList.map ("key", ·) ++ g.sequence.toList.map ("sequence", ·) ++
          g.params).map fun (name, value) => .leaf "param" [("name", name)] value)
  composite : ids.length ≠ 1 → x.heading = ("composite-id", none) ∧
    x.children.map heading = ids.map fun p => ("key-property", some p.name)

/-- The parts that follow the identifier of a class, in order. -/
def partsAfterIdentity (e : MappedEntity) : List (String × Option String) :=
  (if e.discriminator.any fun d => d.column.isSome || d.formula.isSome then
    [("discriminator", none)] else []) ++
  e.version.toList.map (fun p => ("version", some p.name)) ++ columnParts e ++
  relationshipParts e.properties

/-- The element of a class has its parts in order, and each property of the class stands in it
once. -/
structure ClassLayout (e : MappedEntity) (x : Element) : Prop where
  tag : x.tag = "class"
  children : ∃ before identity after, x.children = before ++ identity :: after ∧
    before.map heading = (if e.cache.isSome then [("cache", none)] else []) ∧
    IdentityLayout e.ids identity ∧
    after.map heading = partsAfterIdentity e
  names : x.propertyNames =
    (e.ids ++ (e.version.toList ++ (e.columnProperties ++ e.associations))).map (·.name)
  once : ∀ p ∈ e.allProperties, x.propertyNames.count p.name = 1

/-! ## What is written -/

/-- The elements with the tag `generator` in a single identifier are its generator, if it has
one. -/
theorem children_singleId_filter (quoteAll : Bool) (p : MappedProperty) :
    (singleId quoteAll p).children.filter (·.tag == "generator") =
      p.generator.toList.map generator := by
  have hcolumn : (column quoteAll p).filter (·.tag == "generator") = [] := by
    rw [List.filter_eq_nil_iff]
    intro x hx
    obtain ⟨c, -, rfl⟩ := List.mem_map.mp hx
    simp [Element.tag]
  have hgenerator : (p.generator.toList.map generator).filter (·.tag == "generator") =
      p.generator.toList.map generator := by
    cases p.generator <;> rfl
  show (column quoteAll p ++ p.generator.toList.map generator).filter (·.tag == "generator") = _
  rw [List.filter_append, hcolumn, hgenerator, List.nil_append]

/-- Identifiers `ids`, if there are any, are written as one element that is laid out as an
identifier. -/
theorem exists_identityLayout (quoteAll : Bool) {ids : List MappedProperty} (hids : ids ≠ []) :
    ∃ x, identity quoteAll ids = [x] ∧ IdentityLayout ids x := by
  -- one is written by itself, two or more as parts of one element
  match ids with
  | [] => exact absurd rfl hids
  | [p] =>
    refine ⟨singleId quoteAll p, rfl, ?_, fun hlength => absurd rfl hlength⟩
    rintro _ ⟨⟩
    exact ⟨heading_singleId quoteAll p, children_singleId_filter quoteAll p⟩
  | p :: q :: rest =>
    refine ⟨_, rfl, fun _ hsingle => by simp at hsingle, fun _ => ⟨rfl, ?_⟩⟩
    simp [Element.children, heading_keyProperty]

/-- In the element of a class stand the names of the identifiers, the version, the columns and the
relationships, in this order. -/
theorem propertyNames_classElement (htags : ∀ p ∈ e.properties, ∀ r ∈ p.association,
      r.collectionTag = "map" ∨ r.collectionTag = "bag") (quoteAll : Bool) :
    (classElement quoteAll e).propertyNames =
      (e.ids ++ (e.version.toList ++ (e.columnProperties ++ e.associations))).map (·.name) := by
  simp [classElement, propertyNames_branch, propertyTags, propertyNames_cache,
    propertyNames_identity, propertyNames_discriminator, propertyNames_versions,
    propertyNames_properties, propertyNames_associations quoteAll htags, MappedEntity.associations]

/-- The element of a sound entity with an identifier is laid out as that of a class. -/
theorem classLayout_classElement (hsound : e.Sound) (hids : e.ids ≠ []) (quoteAll : Bool) :
    ClassLayout e (classElement quoteAll e) := by
  obtain ⟨identifier, hidentity, hlayout⟩ := exists_identityLayout quoteAll hids
  have hnames := propertyNames_classElement hsound.tags quoteAll
  constructor
  case tag => rfl
  case children =>
    refine ⟨cache e, identifier, discriminator quoteAll e ++
      e.version.toList.map (version quoteAll) ++ properties quoteAll e ++
      associations quoteAll e.properties, ?_, heading_cache e, hlayout, ?_⟩
    · rw [classElement, hidentity]
      simp only [Element.children, List.append_assoc, List.cons_append, List.nil_append]
    · simp only [List.map_append, heading_discriminator, heading_properties, heading_associations,
        List.map_map, Function.comp_def, heading_version, partsAfterIdentity]
  case names => exact hnames
  case once =>
    -- no two properties of a sound entity have one name
    refine count_propertyNames ?_ hsound.names
    rw [hnames]
    exact (((perm_columnProperties_associations e).append_left _).append_left _).map _

/-! ## Documents -/

/-- A document has the element of its entity under the root. -/
theorem entity_of_document {quoteAll : Bool} {document : Document}
    (h : e.document quoteAll = .ok document) : document.entity = e.element quoteAll := by
  unfold MappedEntity.document at h
  split at h
  · cases h
  · cases h
    rfl

/-- The document of a mapped class that has no parent, whether its references are resolved or not:
the element under the root is a `class`, its parts stand in the order that readers expect, and each
of its properties stands in it once, under the name that it has. -/
theorem classLayout_of_yields {quoteAll : Bool} {document : Document}
    (h : MappedEntity.Yields d fallback e) (hroot : e.placement = none)
    (hdocument : e.document quoteAll = .ok document) : ClassLayout e document.entity := by
  have hsound := MappedEntity.sound_of_yields h
  -- without a parent there is an identifier
  have hids : e.ids ≠ [] := by
    have hidentified := hsound.identified
    rw [MappedEntity.isIdentified, hroot] at hidentified
    simpa using hidentified
  have helement : e.element quoteAll = classElement quoteAll e := by
    unfold MappedEntity.element
    rw [hroot]
  rw [entity_of_document hdocument, helement]
  exact classLayout_classElement hsound hids quoteAll

/-- An invoice is laid out as a class, although its columns and relationships are declared before
and after its version. -/
theorem classLayout_of_yields_invoice :
    ∃ e document, MappedEntity.Yields (MappedEntity.invoiceDescriptor []) none e ∧
      e.placement = none ∧ e.document false = .ok document ∧
      ClassLayout e document.entity ∧
      document.entity.propertyNames = ["number", "changed", "total", "lines"] := by
  have hmapped : (MappedEntity.ofDescriptor (MappedEntity.invoiceDescriptor [])
      none).outcome.toOption.map (fun e => ((e.placement, (e.document false).toOption.isSome),
        (e.ids ++ (e.version.toList ++ (e.columnProperties ++ e.associations))).map (·.name))) =
          some ((none, true), ["number", "changed", "total", "lines"]) := by
    decide +kernel
  obtain ⟨e, hoption, hparts⟩ := Option.map_eq_some_iff.mp hmapped
  obtain ⟨hwritten, hnames⟩ := Prod.mk.inj hparts
  obtain ⟨hroot, hsome⟩ := Prod.mk.inj hwritten
  obtain ⟨document, hdocument⟩ := Option.isSome_iff_exists.mp hsome
  have hyields : MappedEntity.Yields (MappedEntity.invoiceDescriptor []) none e :=
    ⟨e, eq_ok_of_toOption hoption, Or.inl rfl⟩
  have hdocument := eq_ok_of_toOption hdocument
  have hlayout := classLayout_of_yields hyields hroot hdocument
  exact ⟨e, document, hyields, hroot, hdocument, hlayout, hlayout.names.trans hnames⟩

end OrmMapping
