import OrmMapping.Proofs.Document.Outline
import OrmMapping.Proofs.Property.Relationships
import OrmMapping.Proofs.Roster.Resolution

/-!
# The elements of relationships

A relationship is written as one element. The terms that are declared of it settle which one, and
what stands in it: the foreign key and the link table can change its kind, the general type makes a
map of a collection, and a column of plain values takes the place of the entities.

* `RelationTerms.Shapes`: what an element has to be for a relationship with these terms;
* `shapes_association`: the element that a relationship is written as;
* `addedTo_element`: a relationship adds this element to its entity, and changes nothing else;
* `relationship_of_ofDecl`: every declared relationship, before and after it is resolved.
-/

namespace OrmMapping

variable {p : MappedProperty} {r : Association} {terms : RelationTerms} {decl : PropertyDecl}
  {dialect : Dialect} {entity : String} {k : AssociationKind}

/-! ## What terms ask for -/

namespace RelationTerms

/-- The tag of a relationship with these terms. -/
def tag (terms : RelationTerms) : String :=
  if terms.kind = .manyToOne ∨ terms.kind = .oneToOne ∧ terms.foreignKey.isSome = true then
    "many-to-one"
  else if terms.kind = .oneToOne then "one-to-one"
  else if terms.isMap then "map" else "bag"

/-- The tag of what a collection with these terms holds. -/
def contentTag (terms : RelationTerms) : String :=
  if terms.elementColumn.isSome then "element"
  else if terms.kind = .manyToMany ∨ terms.kind = .oneToMany ∧ terms.linkTable.isSome = true then
    "many-to-many"
  else "one-to-many"

/-- The tags of the parts of a collection with these terms. -/
def partTags (terms : RelationTerms) : List String :=
  "key" :: ((if terms.isMap then ["map-key"] else []) ++ [terms.contentTag])

/-- An element is what the terms of a relationship ask for. A one-to-one with a foreign key is
promoted to a many-to-one, and stays unique. -/
structure Shapes (terms : RelationTerms) (quoteAll : Bool) (x : Element) : Prop where
  tag : x.tag = terms.tag
  promoted : terms.kind = .oneToOne → ∀ f ∈ terms.foreignKey,
    x.attribute? "unique" = some "true" ∧
      x.attribute? "column" =
        if terms.formula.isNone then some (quoteIdentifier quoteAll f) else none
  toOne : terms.kind.isToMany = false → x.children = []
  toMany : terms.kind.isToMany = true → x.children.map (·.tag) = terms.partTags

/-- The changes of a kind keep collections apart from relationships to single entities. -/
theorem isToMany_mappedKind (terms : RelationTerms) :
    terms.mappedKind.isToMany = terms.kind.isToMany := by
  unfold mappedKind
  cases terms.kind with
  | manyToOne => rfl
  | manyToMany => rfl
  | oneToOne => cases terms.foreignKey <;> rfl
  | oneToMany => cases terms.linkTable <;> rfl

end RelationTerms

/-! ## The element of a relationship -/

/-- A relationship that follows `terms` leads to many entities exactly when the declared kind
does. -/
theorem isToMany_of_follows (h : p.Follows r terms) : r.kind.isToMany = terms.kind.isToMany := by
  rw [h.kind, terms.isToMany_mappedKind]

/-- A relationship that follows `terms` is written with the tag that the terms ask for. -/
theorem tag_of_follows (h : p.Follows r terms) : Layout.associationTag r = terms.tag := by
  rw [Layout.associationTag, h.tag, h.mapKey, isToMany_of_follows h, h.kind,
    RelationTerms.mappedKind, RelationTerms.tag]
  cases terms.kind with
  | manyToOne => rfl
  | oneToOne => cases terms.foreignKey <;> rfl
  | oneToMany => cases terms.linkTable <;> simp [AssociationKind.isToMany]
  | manyToMany => simp [AssociationKind.isToMany]

/-- What a collection holds has the tag that the terms ask for. -/
theorem tag_collectionContent (h : p.Follows r terms) (hmany : terms.kind.isToMany = true)
    (quoteAll : Bool) : (Layout.collectionContent quoteAll r).tag = terms.contentTag := by
  have helement := h.element
  rw [isToMany_of_follows h, hmany, Bool.true_and] at helement
  unfold Layout.collectionContent RelationTerms.contentTag
  rw [← helement]
  cases r.element with
  | some c => rfl
  | none =>
    rw [h.kind, RelationTerms.mappedKind]
    -- only a one-to-many changes its kind, with its link table
    cases hkind : terms.kind with
    | manyToOne => rw [hkind] at hmany; cases hmany
    | oneToOne => rw [hkind] at hmany; cases hmany
    | manyToMany => rfl
    | oneToMany => cases terms.linkTable <;> rfl

/-- The parts of a collection have the tags that the terms ask for, in order. -/
theorem tags_children_collection (h : p.Follows r terms) (hmany : terms.kind.isToMany = true)
    (quoteAll : Bool) :
    (Layout.collection quoteAll p r).children.map (·.tag) = terms.partTags := by
  have hkeys : (r.mapKey.toList.map (Layout.collectionColumn quoteAll "map-key")).map (·.tag) =
      if terms.isMap then ["map-key"] else [] := by
    have hmap := h.mapKey
    rw [isToMany_of_follows h, hmany, Bool.true_and] at hmap
    rw [← hmap]
    cases r.mapKey <;> rfl
  simp only [Layout.collection, Element.children, List.map_cons, List.map_append, hkeys,
    List.map_nil, tag_collectionContent h hmany]
  rfl

/-- The element of a relationship that follows `terms` is the one that the terms ask for. -/
theorem shapes_association (h : p.Follows r terms) (quoteAll : Bool) :
    terms.Shapes quoteAll (Layout.association quoteAll p r) := by
  constructor
  case tag => rw [Layout.tag_association, tag_of_follows h]
  case promoted =>
    intro hone f hf
    obtain ⟨hunique, hcolumn⟩ := h.promoted hone f hf
    have hkind : r.kind = .manyToOne := by
      rw [h.kind, RelationTerms.mappedKind, hone, Option.mem_def.mp hf]
      rfl
    rw [Layout.association, hkind]
    constructor
    · simp [Layout.manyToOne, Element.attribute?, Element.attributes, List.lookup_append, hunique]
    · simp [Layout.manyToOne, Element.attribute?, Element.attributes, List.lookup_append, hcolumn]
  case toOne =>
    intro hone
    rw [← isToMany_of_follows h] at hone
    unfold Layout.association
    -- the kind after the changes decides, and it is of the same arity as the declared one
    cases hkind : r.kind with
    | manyToOne => rfl
    | oneToOne => rfl
    | oneToMany => rw [hkind] at hone; cases hone
    | manyToMany => rw [hkind] at hone; cases hone
  case toMany =>
    intro hmany
    rw [← tags_children_collection h hmany quoteAll]
    rw [← isToMany_of_follows h] at hmany
    unfold Layout.association
    cases hkind : r.kind with
    | manyToOne => rw [hkind] at hmany; cases hmany
    | oneToOne => rw [hkind] at hmany; cases hmany
    | oneToMany => rfl
    | manyToMany => rfl

/-! ## The element in its entity -/

/-- Two elements that differ in one child alone, which the second one has and the first one
lacks. -/
def Element.AddedTo (child x y : Element) : Prop :=
  ∃ tag attributes before after,
    x = .branch tag attributes (before ++ after) ∧
      y = .branch tag attributes (before ++ child :: after)

/-- The entity with these properties in place of its own. -/
def MappedEntity.withProperties (e : MappedEntity) (ps : List MappedProperty) : MappedEntity :=
  { e with properties := ps }

/-- For every entity there are a `front` and a `back` around the relationships that stay the same
whatever the relationships are, as long as the columns `ps` has are those of the entity. -/
theorem exists_around_associations (e : MappedEntity) (quoteAll : Bool) :
    ∃ front back, ∀ ps : List MappedProperty,
      ps.filter (·.association.isNone) = e.columnProperties →
        (e.withProperties ps).element quoteAll =
          .branch (e.element quoteAll).tag (e.element quoteAll).attributes
            (front ++ Layout.associations quoteAll ps ++ back) := by
  have hproperties : ∀ ps : List MappedProperty,
      ps.filter (·.association.isNone) = e.columnProperties →
        Layout.properties quoteAll (e.withProperties ps) = Layout.properties quoteAll e :=
    fun ps hps => congrArg (List.map (Layout.property quoteAll)) hps
  have hplacement : ∀ ps, (e.withProperties ps).placement = e.placement := fun _ => rfl
  simp only [MappedEntity.element, hplacement]
  -- the relationships stand last, but for the join of a subclass that is kept in another table
  cases e.placement with
  | none =>
    refine ⟨Layout.cache e ++ Layout.identity quoteAll e.ids ++ Layout.discriminator quoteAll e ++
      e.version.toList.map (Layout.version quoteAll) ++ Layout.properties quoteAll e, [],
      fun ps hps => ?_⟩
    rw [List.append_nil, ← hproperties ps hps]
    rfl
  | some placement =>
    dsimp only
    unfold Layout.subclassElement
    cases placement.isDiscriminated with
    | false =>
      refine ⟨Layout.joinKey quoteAll placement :: Layout.properties quoteAll e, [],
        fun ps hps => ?_⟩
      rw [List.append_nil, ← hproperties ps hps]
      rfl
    | true =>
      have htable : ∀ ps, (e.withProperties ps).tableName = e.tableName := fun _ => rfl
      simp only [if_true, Layout.discriminatedElement, htable]
      cases e.tableName == placement.parentTable with
      | true =>
        refine ⟨Layout.properties quoteAll e, [], fun ps hps => ?_⟩
        rw [List.append_nil, ← hproperties ps hps]
        rfl
      | false =>
        -- only a join comes after the relationships
        refine ⟨[], [.branch "join" (Layout.storage quoteAll e)
          (Layout.joinKey quoteAll placement :: Layout.properties quoteAll e)], fun ps hps => ?_⟩
        rw [List.nil_append, ← hproperties ps hps]
        rfl

/-- An entity with a relationship `r` at `p` is written as without `p`, and with the one element of
`r` more. -/
theorem addedTo_element {e : MappedEntity} {before after : List MappedProperty}
    (hsplit : e.properties = before ++ p :: after) (hr : p.association = some r)
    (quoteAll : Bool) :
    (Layout.association quoteAll p r).AddedTo
      ((e.withProperties (before ++ after)).element quoteAll) (e.element quoteAll) := by
  -- the two entities have the same columns
  obtain ⟨front, back, haround⟩ := exists_around_associations e quoteAll
  have hwith := haround e.properties rfl
  have hwithout := haround (before ++ after) (by simp [MappedEntity.columnProperties, hsplit, hr])
  refine ⟨(e.element quoteAll).tag, (e.element quoteAll).attributes,
    front ++ Layout.associations quoteAll before, Layout.associations quoteAll after ++ back,
    ?_, ?_⟩
  · rw [hwithout]
    simp [Layout.associations]
  · refine hwith.trans ?_
    rw [hsplit]
    simp [Layout.associations, hr]

/-! ## Declared relationships -/

/-- The target of a relationship does not matter for what it is mapped to. -/
theorem MappedProperty.Follows.withReferent (h : p.Follows r terms)
    (find : String → Option String) :
    (p.withReferent find).Follows { r with targetEntity := find r.target } terms := by
  refine ⟨?_, h.kind, h.mapKey, h.tag, h.element, h.promoted⟩
  rw [MappedProperty.withReferent, h.association]
  rfl

/-- A declared relationship is written as one element, whether its target is resolved or not, and
the terms that are declared settle the shape of this element. The entity that it is a property of is
written with this element and is otherwise as it would be without the relationship. -/
theorem relationship_of_ofDecl
    (h : (MappedProperty.ofDecl decl dialect entity).outcome = .ok (some p))
    (hkind : declaredKind dialect (decl.annotationSet entity) = .ok (.association k)) :
    ∃ terms : RelationTerms, terms.kind = k ∧
      terms.ReadFrom dialect (decl.annotationSet entity) ∧
      ∀ p', (p' = p ∨ ∃ (roster : Roster) (e : MappedEntity),
          roster.resolveProperty e p = .ok p') →
        ∀ quoteAll, ∃ x : Element, x.attribute? "name" = some p.name ∧ terms.Shapes quoteAll x ∧
          ∀ (e : MappedEntity) before after, e.properties = before ++ p' :: after →
            x.AddedTo ((e.withProperties (before ++ after)).element quoteAll)
              (e.element quoteAll) := by
  obtain ⟨terms, hk, hread, r, hfollows⟩ := exists_follows_of_ofDecl h hkind
  refine ⟨terms, hk, hread, fun p' hp' quoteAll => ?_⟩
  obtain ⟨hname, r', hfollows'⟩ : p'.name = p.name ∧ ∃ r', p'.Follows r' terms := by
    rcases hp' with rfl | ⟨roster, e, hresolved⟩
    · exact ⟨rfl, r, hfollows⟩
    · obtain ⟨-, rfl⟩ := Roster.resolveProperty_eq_ok_iff.mp hresolved
      exact ⟨rfl, _, hfollows.withReferent _⟩
  refine ⟨Layout.association quoteAll p' r', ?_, shapes_association hfollows' quoteAll,
    fun e before after hsplit => addedTo_element hsplit hfollows'.association quoteAll⟩
  rw [← hname]
  exact congrArg Prod.snd (Layout.heading_association quoteAll p' r')

/-- The owner of a car: one person, who has no other car. -/
def ownerOfCar : PropertyDecl where
  name := "owner"
  annotations := [("fieldtype", .str "one-to-one"), ("cfc", .str "Person"),
    ("fkcolumn", .str " owner_id ")]

/-- The owner of a car is declared one-to-one with a foreign key, and is written as a unique
many-to-one on that column. -/
theorem relationship_of_ofDecl_owner :
    ∃ p, (MappedProperty.ofDecl ownerOfCar .classic "Car").outcome = .ok (some p) ∧
      declaredKind .classic (ownerOfCar.annotationSet "Car") = .ok (.association .oneToOne) ∧
      ∃ x : Element, x.heading = ("many-to-one", some "owner") ∧
        x.attribute? "unique" = some "true" ∧ x.attribute? "column" = some "owner_id" ∧
        ∀ e : MappedEntity, e.properties = [p] →
          x.AddedTo ((e.withProperties []).element false) (e.element false) := by
  have hmapped : (MappedProperty.ofDecl ownerOfCar .classic "Car").outcome.toOption.map
      (·.map (·.name)) = some (some "owner") := by decide +kernel
  obtain ⟨mapped, hoption, hmapped⟩ := Option.map_eq_some_iff.mp hmapped
  obtain ⟨p, rfl, hname⟩ := Option.map_eq_some_iff.mp hmapped
  have hok := eq_ok_of_toOption hoption
  have hkind : declaredKind .classic (ownerOfCar.annotationSet "Car") =
      .ok (.association .oneToOne) := eq_ok_of_toOption (by decide +kernel)
  have hforeignKey : declaredForeignKey .classic (ownerOfCar.annotationSet "Car") =
      .ok (some "owner_id") := eq_ok_of_toOption (by decide +kernel)
  have hformula : (ownerOfCar.annotationSet "Car").text? "formula" = .ok none :=
    eq_ok_of_toOption (by decide +kernel)
  obtain ⟨terms, hone, hread, hwritten⟩ := relationship_of_ofDecl hok hkind
  have hforeignKey : terms.foreignKey = some "owner_id" :=
    Except.ok.inj (hread.foreignKey.symm.trans hforeignKey)
  have hformula : terms.formula = none := Except.ok.inj (hread.formula.symm.trans hformula)
  obtain ⟨x, hx, hshapes, hadded⟩ := hwritten p (Or.inl rfl) false
  obtain ⟨hunique, hcolumn⟩ := hshapes.promoted hone "owner_id" hforeignKey
  refine ⟨p, hok, hkind, x, ?_, hunique, ?_, fun e he => hadded e [] [] he⟩
  · rw [Element.heading, hx, hshapes.tag, hname, RelationTerms.tag, hone, hforeignKey]
    rfl
  · rw [hcolumn, hformula]
    decide +kernel

end OrmMapping
