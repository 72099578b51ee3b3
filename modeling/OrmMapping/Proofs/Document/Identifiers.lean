import OrmMapping.Proofs.Document.Outline

/-!
# Names of tables and columns in documents

Some attributes of a document name tables and columns: `table` and `column` wherever they stand, and
the names of the elements that stand for columns. A tree can be changed in these names alone, and
they can be read off in document order.

* `Element.isIdentifier`: which attributes they are;
* `Element.mapIdentifiers`: the tree with other names of tables and columns;
* `Element.identifiers`: the names of tables and columns in document order;
* `mapIdentifiers_of_nil`, `fault?_mapIdentifiers`: trees that stay as they are, faults that do;
* `MappedEntity.columnsBare_element`: the elements with the tag of columns stand for columns.
-/

namespace OrmMapping

namespace Element

/-- Whether an element with this tag stands for a column. A collection may be given any tag, but it
has elements in it and a column has none. -/
def isColumn (tag : String) (children : List Element) : Bool :=
  tag == "column" && children.isEmpty

/-- Whether an attribute names a table or a column, on an element that stands for a column or on
another one. -/
def isIdentifier (column : Bool) (name : String) : Bool :=
  name == "table" || name == "column" || (column && name == "name")

/-- An attribute with another value when it names a table or a column. -/
def mapIdentifier (f : String → String) (column : Bool) (a : String × String) : String × String :=
  if isIdentifier column a.1 then (a.1, f a.2) else a

mutual

/-- The same tree with other names of tables and columns. -/
def mapIdentifiers (f : String → String) : Element → Element
  | .branch tag attributes children =>
    .branch tag (attributes.map (mapIdentifier f (isColumn tag children)))
      (mapAllIdentifiers f children)
  | .leaf tag attributes text => .leaf tag (attributes.map (mapIdentifier f (isColumn tag []))) text

/-- The same trees with other names of tables and columns. -/
def mapAllIdentifiers (f : String → String) : List Element → List Element
  | [] => []
  | e :: rest => mapIdentifiers f e :: mapAllIdentifiers f rest

end

/-- The names of tables and columns among the attributes of one element. -/
def attributeIdentifiers (column : Bool) (attributes : List (String × String)) : List String :=
  (attributes.filter fun a => isIdentifier column a.1).map (·.2)

mutual

/-- The names of tables and columns in an element, in document order. -/
def identifiers : Element → List String
  | .branch tag attributes children =>
    attributeIdentifiers (isColumn tag children) attributes ++ allIdentifiers children
  | .leaf tag attributes _ => attributeIdentifiers (isColumn tag []) attributes

/-- The names of tables and columns in several elements. -/
def allIdentifiers : List Element → List String
  | [] => []
  | e :: rest => identifiers e ++ allIdentifiers rest

end

variable {f : String → String} {column : Bool}

/-! ## Attributes -/

/-- Attributes that name no table and no column stay as they are. -/
theorem map_mapIdentifier_of_nil {attributes : List (String × String)}
    (h : attributeIdentifiers column attributes = []) :
    attributes.map (mapIdentifier f column) = attributes := by
  have hnone : ∀ a ∈ attributes, ¬ isIdentifier column a.1 = true :=
    List.filter_eq_nil_iff.mp (List.map_eq_nil_iff.mp h)
  refine (List.map_congr_left fun a ha => ?_).trans (List.map_id attributes)
  exact if_neg (hnone a ha)

/-! ## Trees -/

/-- Several trees are changed one by one. -/
theorem mapAllIdentifiers_eq_map (es : List Element) :
    mapAllIdentifiers f es = es.map (mapIdentifiers f) := by
  induction es with
  | nil => rfl
  | cons e rest ih => rw [mapAllIdentifiers, List.map_cons, ih]

/-- The names in several trees are those in each, one after the other. -/
theorem allIdentifiers_eq_flatMap (es : List Element) :
    allIdentifiers es = es.flatMap identifiers := by
  induction es with
  | nil => rfl
  | cons e rest ih => rw [allIdentifiers, List.flatMap_cons, ih]

/-- No element comes to stand for a column, and none ceases to. -/
theorem isColumn_mapAllIdentifiers (tag : String) (children : List Element) :
    isColumn tag (mapAllIdentifiers f children) = isColumn tag children := by
  cases children <;> rfl

mutual

/-- A tree without names of tables and columns stays as it is, whatever `f` is. -/
theorem mapIdentifiers_of_nil : (e : Element) → e.identifiers = [] → e.mapIdentifiers f = e
  | .branch tag attributes children, h => by
    obtain ⟨hattributes, hchildren⟩ := List.append_eq_nil_iff.mp h
    rw [mapIdentifiers, map_mapIdentifier_of_nil hattributes,
      mapAllIdentifiers_of_nil children hchildren]
  | .leaf tag attributes text, h => by
    rw [mapIdentifiers, map_mapIdentifier_of_nil h]

/-- Trees without names of tables and columns stay as they are. -/
theorem mapAllIdentifiers_of_nil :
    (es : List Element) → allIdentifiers es = [] → mapAllIdentifiers f es = es
  | [], _ => rfl
  | e :: rest, h => by
    obtain ⟨hfirst, hrest⟩ := List.append_eq_nil_iff.mp h
    rw [mapAllIdentifiers, mapIdentifiers_of_nil e hfirst, mapAllIdentifiers_of_nil rest hrest]

end

/-! ## Faults -/

/-- Where `f` keeps what XML allows, the fault of a start tag stays the same. -/
theorem startFault?_map (hf : ∀ s, isXmlText (f s) = isXmlText s) (tag : String)
    (attributes : List (String × String)) :
    startFault? tag (attributes.map (mapIdentifier f column)) = startFault? tag attributes := by
  -- the faults of an attribute are those of its value, which `f` keeps
  have hvalue : ∀ a : String × String,
      textFault? (mapIdentifier f column a).2 = textFault? a.2 := by
    intro a
    unfold mapIdentifier textFault?
    split
    · rw [hf]
    · rfl
  unfold startFault?
  rw [List.findSome?_map]
  congr 2
  exact funext hvalue

mutual

/-- Where `f` keeps what XML allows, the first fault of a tree stays the same. -/
theorem fault?_mapIdentifiers (hf : ∀ s, isXmlText (f s) = isXmlText s) :
    (e : Element) → (e.mapIdentifiers f).fault? = e.fault?
  | .branch tag attributes children => by
    simp only [mapIdentifiers, fault?, startFault?_map hf,
      firstFault?_mapAllIdentifiers hf children]
  | .leaf tag attributes text => by
    simp only [mapIdentifiers, fault?, startFault?_map hf]

/-- Where `f` keeps what XML allows, the first fault of several trees stays the same. -/
theorem firstFault?_mapAllIdentifiers (hf : ∀ s, isXmlText (f s) = isXmlText s) :
    (es : List Element) → firstFault? (mapAllIdentifiers f es) = firstFault? es
  | [] => rfl
  | e :: rest => by
    simp only [mapAllIdentifiers, firstFault?, fault?_mapIdentifiers hf e,
      firstFault?_mapAllIdentifiers hf rest]

end

/-! ## Elements of columns -/

/-- The elements with the tag of columns have nothing in them. -/
def ColumnsBare (x : Element) : Prop :=
  ∀ attributes children, branch "column" attributes children ∈ x.within → children = []

/-- The columns in a branch are bare when those in its `children` are, and the branch itself has no
children if it has their tag. -/
theorem columnsBare_branch {tag : String} {attributes : List (String × String)}
    {children : List Element} :
    (branch tag attributes children).ColumnsBare ↔
      (tag = "column" → children = []) ∧ ∀ x ∈ children, x.ColumnsBare := by
  unfold ColumnsBare
  rw [within_branch]
  constructor
  · -- the branch itself is among the elements within it
    intro h
    refine ⟨?_, fun x hx attributes inner hy => ?_⟩
    · rintro rfl
      exact h _ _ List.mem_cons_self
    · exact h _ _ (List.mem_cons_of_mem _ (List.mem_flatMap.mpr ⟨x, hx, hy⟩))
  · rintro ⟨htag, hchildren⟩ attributes inner hy
    rcases List.mem_cons.mp hy with heq | hy
    · injection heq with heq _ hinner
      exact hinner.trans (htag heq.symm)
    · obtain ⟨x, hx, hy⟩ := List.mem_flatMap.mp hy
      exact hchildren x hx _ _ hy

/-- A leaf has nothing in it. -/
theorem columnsBare_leaf {tag text : String} {attributes : List (String × String)} :
    (leaf tag attributes text).ColumnsBare := by
  simp [ColumnsBare, within]

end Element

namespace Layout

open Element

variable (quoteAll : Bool) (p : MappedProperty) (r : Association) (e : MappedEntity)

section Parts

attribute [local simp] columnsBare_branch columnsBare_leaf

/-- The columns of a property are bare. -/
theorem columnsBare_column : ∀ x ∈ column quoteAll p, x.ColumnsBare := by
  simp [column]

/-- The columns in the element of a property are bare. -/
theorem columnsBare_property : (property quoteAll p).ColumnsBare := by
  simpa [property] using columnsBare_column quoteAll p

/-- The columns in an identifier are bare, whatever parts `ids` it has. -/
theorem columnsBare_identity (ids : List MappedProperty) :
    ∀ x ∈ identity quoteAll ids, x.ColumnsBare := by
  match ids with
  | [] => simp [identity]
  | [p] =>
    have hgenerator : ∀ g, (generator g).ColumnsBare := by
      intro g
      exact columnsBare_branch.mpr
        ⟨by simp, List.forall_mem_map.mpr fun _ _ => columnsBare_leaf⟩
    simpa [identity, singleId, or_imp, forall_and, hgenerator] using columnsBare_column quoteAll p
  | p :: q :: rest =>
    simp [identity, keyProperty]
    refine ⟨columnsBare_column quoteAll p, columnsBare_column quoteAll q, ?_⟩
    exact fun p _ => columnsBare_column quoteAll p

/-- The columns in the element of a relationship are bare, unless a collection itself has the tag of
columns. -/
theorem columnsBare_association (h : r.collectionTag ≠ "column") :
    (association quoteAll p r).ColumnsBare := by
  have hcontent : (collectionContent quoteAll r).ColumnsBare := by
    unfold collectionContent
    split
    · simp [collectionColumn]
    · split <;> simp
  have hcollection : (collection quoteAll p r).ColumnsBare := by
    simp [collection, collectionKey, collectionColumn, hcontent, h, or_imp, forall_and]
  unfold association
  cases r.kind with
  | manyToOne => simp [manyToOne]
  | oneToOne => simp [oneToOne]
  | oneToMany => exact hcollection
  | manyToMany => exact hcollection

/-- The columns among the columns and relationships of an entity are bare, if no collection has
their tag. -/
theorem columnsBare_children
    (h : ∀ p ∈ e.properties, ∀ r ∈ p.association, r.collectionTag ≠ "column") :
    (∀ x ∈ properties quoteAll e, x.ColumnsBare) ∧
      ∀ x ∈ associations quoteAll e.properties, x.ColumnsBare := by
  constructor
  · exact (forall_mem_properties quoteAll e).mpr fun p _ => columnsBare_property quoteAll p
  · refine (forall_mem_associations quoteAll).mpr fun p hp r hr => ?_
    exact columnsBare_association quoteAll p r (h p hp r hr)

/-- The columns in the element of a class are bare, if no collection has their tag. -/
theorem columnsBare_classElement
    (h : ∀ p ∈ e.properties, ∀ r ∈ p.association, r.collectionTag ≠ "column") :
    (classElement quoteAll e).ColumnsBare := by
  obtain ⟨hproperties, hassociations⟩ := columnsBare_children quoteAll e h
  have hdiscriminator : ∀ x ∈ discriminator quoteAll e, x.ColumnsBare := by
    unfold discriminator
    split
    · simp
    · split <;> simp
  refine columnsBare_branch.mpr ⟨by simp, ?_⟩
  simp only [List.forall_mem_append]
  refine ⟨⟨⟨⟨⟨?_, columnsBare_identity quoteAll e.ids⟩, hdiscriminator⟩, ?_⟩, hproperties⟩,
    hassociations⟩
  · simp [cache]
  · simpa [version] using fun p _ => columnsBare_column quoteAll p

/-- The columns in the element of a subclass are bare, if no collection has their tag. -/
theorem columnsBare_subclassElement (p : Placement)
    (h : ∀ p ∈ e.properties, ∀ r ∈ p.association, r.collectionTag ≠ "column") :
    (subclassElement quoteAll e p).ColumnsBare := by
  obtain ⟨hproperties, hassociations⟩ := columnsBare_children quoteAll e h
  -- three shapes: in the table of the parent, with a join, and joined as a whole
  unfold subclassElement
  split
  · unfold discriminatedElement
    split
    · simpa [or_imp, forall_and] using ⟨hproperties, hassociations⟩
    · simpa [joinKey, or_imp, forall_and] using ⟨hassociations, hproperties⟩
  · simpa [joinedElement, joinKey, or_imp, forall_and] using ⟨hproperties, hassociations⟩

end Parts

end Layout

/-- The columns in the element of any entity are bare, if no collection has their tag. -/
theorem MappedEntity.columnsBare_element (e : MappedEntity) (quoteAll : Bool)
    (h : ∀ p ∈ e.properties, ∀ r ∈ p.association, r.collectionTag ≠ "column") :
    (e.element quoteAll).ColumnsBare := by
  unfold element
  split
  · exact Layout.columnsBare_subclassElement quoteAll e _ h
  · exact Layout.columnsBare_classElement quoteAll e h

end OrmMapping
