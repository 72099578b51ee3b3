import Mathlib.Data.List.Forall2
import OrmMapping.Proofs.Document.Identifiers

/-!
# Quoting all names or the reserved ones

A document can be written with all names of tables and columns quoted, or with the reserved ones
only. Every part of a document is written alike in both settings but for these names, each of which
is quoted once.

* `WrittenAs`, `writtenAs_quoteIdentifier`: how a name is written;
* `MappedEntity.identifiers`: the names of tables and columns that an entity has, in the order in
  which they are written;
* `Quoted`, `quoted_property`, …: what each part has in both settings;
* `MappedEntity.quoted_element`: the element of an entity;
* `MappedEntity.document_quoting`: both documents.
-/

namespace OrmMapping

/-! ## One name -/

/-- A name between marks. -/
def betweenMarks (name : String) : String :=
  identifierQuote.toString ++ name ++ identifierQuote.toString

/-- How a name of a table or a column is written. -/
structure WrittenAs (all : Bool) (name written : String) : Prop where
  marked : isQuoted name = true → written = name
  reserved : isReserved name = true → written = betweenMarks name
  quoted : all = true → isQuoted written = true
  bare : all = false → isReserved name = false → written = name

variable {all : Bool} {name : String}

/-- A name between marks counts as quoted. -/
theorem isQuoted_betweenMarks (name : String) : isQuoted (betweenMarks name) = true := by
  simp [isQuoted, betweenMarks, identifierQuote]

/-- No reserved word begins with the mark, whatever its case. -/
theorem not_isQuoted_of_isReserved (h : isReserved name = true) : isQuoted name = false := by
  have hwords : ∀ word ∈ reservedWords, isQuoted word = false := by decide +kernel
  have hlower := hwords _ (List.contains_iff_mem.mp h)
  refine Bool.eq_false_iff.mpr fun hquoted => ?_
  obtain ⟨rest, hname⟩ : ∃ rest, name.toList = identifierQuote :: rest := by
    cases hlist : name.toList with
    | nil => simp [isQuoted, hlist] at hquoted
    | cons c rest => exact ⟨rest, by simpa [isQuoted, hlist] using hquoted⟩
  -- the mark has no other case
  have hmark : (Text.lower name).toList =
      identifierQuote :: Text.lowerFrom [identifierQuote] rest := by
    rw [Text.toList_lower, hname]
    rfl
  rw [isQuoted, hmark] at hlower
  simp at hlower

/-- A name that is quoted already is written as it is. -/
theorem quoteIdentifier_of_isQuoted (all : Bool) (h : isQuoted name = true) :
    quoteIdentifier all name = name := by
  rw [quoteIdentifier, if_pos h]

/-- A reserved word is quoted in either setting. -/
theorem quoteIdentifier_of_isReserved (all : Bool) (h : isReserved name = true) :
    quoteIdentifier all name = betweenMarks name := by
  rw [quoteIdentifier, not_isQuoted_of_isReserved h, h, Bool.or_true]
  rfl

/-- Any other name is left bare when only reserved words are quoted. -/
theorem quoteIdentifier_false (h : isReserved name = false) :
    quoteIdentifier false name = name := by
  rw [quoteIdentifier, h, Bool.or_false]
  exact ite_self name

/-- With all names quoted every name is written quoted. -/
theorem isQuoted_quoteIdentifier (name : String) : isQuoted (quoteIdentifier true name) = true := by
  cases hquoted : isQuoted name with
  | true => rwa [quoteIdentifier_of_isQuoted true hquoted]
  | false =>
    rw [quoteIdentifier, hquoted, Bool.true_or]
    exact isQuoted_betweenMarks name

/-- `quoteIdentifier` writes every name as `WrittenAs` asks. -/
theorem writtenAs_quoteIdentifier (all : Bool) (name : String) :
    WrittenAs all name (quoteIdentifier all name) where
  marked := quoteIdentifier_of_isQuoted all
  reserved := quoteIdentifier_of_isReserved all
  quoted := by
    rintro rfl
    exact isQuoted_quoteIdentifier name
  bare := by
    rintro rfl
    exact quoteIdentifier_false

/-- Quoting what has been written with `false` gives what quoting the name itself gives. -/
@[simp] theorem quoteIdentifier_quoteIdentifier (all : Bool) (name : String) :
    quoteIdentifier all (quoteIdentifier false name) = quoteIdentifier all name := by
  cases hreserved : isReserved name with
  | true =>
    rw [quoteIdentifier_of_isReserved false hreserved, quoteIdentifier_of_isReserved all hreserved,
      quoteIdentifier_of_isQuoted all (isQuoted_betweenMarks name)]
  | false => rw [quoteIdentifier_false hreserved]

/-- Quoting what was quoted, as an equation of functions, for lists of names. -/
@[simp] theorem quoteIdentifier_comp_quoteIdentifier (all : Bool) :
    quoteIdentifier all ∘ quoteIdentifier false = quoteIdentifier all :=
  funext (quoteIdentifier_quoteIdentifier all)

/-- Quoting keeps what XML allows, as the marks are characters that a document may hold. -/
theorem isXmlText_quoteIdentifier (all : Bool) (name : String) :
    isXmlText (quoteIdentifier all name) = isXmlText name := by
  have hmarks : isXmlText (betweenMarks name) = isXmlText name := by
    have hmark : isXmlChar identifierQuote = true := by decide
    simp [isXmlText, betweenMarks, hmark]
  unfold quoteIdentifier
  split
  · rfl
  · split
    · exact hmarks
    · rfl

/-! ## What is written alike -/

open Element

/-- Attributes that are alike in both settings but for some names of tables and columns. -/
structure QuotedAttributes (column : Bool) (names : List String)
    (attributes : Bool → List (String × String)) : Prop where
  requoted (all : Bool) :
    attributes all = (attributes false).map (mapIdentifier (quoteIdentifier all) column)
  identifiers (all : Bool) :
    attributeIdentifiers column (attributes all) = names.map (quoteIdentifier all)

/-- An element that is alike in both settings but for some names of tables and columns. -/
structure Quoted (names : List String) (x : Bool → Element) : Prop where
  requoted (all : Bool) : x all = (x false).mapIdentifiers (quoteIdentifier all)
  identifiers (all : Bool) : (x all).identifiers = names.map (quoteIdentifier all)

/-- Several elements that are alike in both settings but for some names of tables and columns. -/
structure QuotedAll (names : List String) (xs : Bool → List Element) : Prop where
  requoted (all : Bool) : xs all = mapAllIdentifiers (quoteIdentifier all) (xs false)
  identifiers (all : Bool) : allIdentifiers (xs all) = names.map (quoteIdentifier all)

section Alike

variable {column : Bool} {names names' : List String} {x : Bool → Element}
  {xs ys : Bool → List Element} {attributes : Bool → List (String × String)}

/-- No elements have no names. -/
theorem QuotedAll.nil : QuotedAll [] fun _ => [] :=
  ⟨fun _ => rfl, fun _ => rfl⟩

/-- Elements `plain` without names of tables and columns do not depend on the setting. -/
theorem QuotedAll.fixed {plain : List Element} (h : allIdentifiers plain = []) :
    QuotedAll [] fun _ => plain where
  requoted _ := (mapAllIdentifiers_of_nil plain h).symm
  identifiers _ := h

/-- The names of the first element come before those of the others. -/
theorem QuotedAll.cons (h : Quoted names x) (h' : QuotedAll names' xs) :
    QuotedAll (names ++ names') fun all => x all :: xs all where
  requoted all := by rw [mapAllIdentifiers, ← h.requoted, ← h'.requoted]
  identifiers all := by rw [allIdentifiers, h.identifiers, h'.identifiers, List.map_append]

/-- The names of `xs` come before those of `ys`. -/
theorem QuotedAll.append (h : QuotedAll names xs) (h' : QuotedAll names' ys) :
    QuotedAll (names ++ names') fun all => xs all ++ ys all where
  requoted all := by
    rw [mapAllIdentifiers_eq_map, List.map_append, ← mapAllIdentifiers_eq_map,
      ← mapAllIdentifiers_eq_map, ← h.requoted, ← h'.requoted]
  identifiers all := by
    rw [allIdentifiers_eq_flatMap, List.flatMap_append, ← allIdentifiers_eq_flatMap,
      ← allIdentifiers_eq_flatMap, h.identifiers, h'.identifiers, List.map_append]

/-- A list of one element has the names of the element. -/
theorem QuotedAll.single (h : Quoted names x) : QuotedAll names fun all => [x all] := by
  simpa using QuotedAll.cons h .nil

/-- Elements that are made of the `items` of a list, several for each, have the names of the items
in turn. -/
theorem QuotedAll.flatMap {α : Type} {items : List α} {f : Bool → α → List Element}
    {namesOf : α → List String} (h : ∀ a ∈ items, QuotedAll (namesOf a) fun all => f all a) :
    QuotedAll (items.flatMap namesOf) fun all => items.flatMap (f all) := by
  induction items with
  | nil => exact .nil
  | cons a rest ih =>
    obtain ⟨hfirst, hrest⟩ := List.forall_mem_cons.mp h
    exact hfirst.append (ih hrest)

/-- Elements that are made of the `items` of a list, one for each, have the names of the items in
turn. -/
theorem QuotedAll.map {α : Type} {items : List α} {f : Bool → α → Element}
    {namesOf : α → List String} (h : ∀ a ∈ items, Quoted (namesOf a) fun all => f all a) :
    QuotedAll (items.flatMap namesOf) fun all => items.map (f all) := by
  simp only [List.map_eq_flatMap]
  exact .flatMap fun a ha => .single (h a ha)

/-- An element without such names does not depend on the setting. -/
theorem Quoted.fixed {plain : Element} (h : plain.identifiers = []) :
    Quoted [] fun _ => plain where
  requoted _ := (mapIdentifiers_of_nil plain h).symm
  identifiers _ := h

/-- An element has the names of its attributes before those of its children. -/
theorem Quoted.branch {tag : String}
    (h : QuotedAttributes (isColumn tag (xs false)) names attributes)
    (h' : QuotedAll names' xs) :
    Quoted (names ++ names') fun all => .branch tag (attributes all) (xs all) where
  requoted all := by
    rw [mapIdentifiers, ← h.requoted, ← h'.requoted]
  identifiers all := by
    have hcolumn : isColumn tag (xs all) = isColumn tag (xs false) := by
      rw [h'.requoted all, isColumn_mapAllIdentifiers]
    rw [Element.identifiers, hcolumn, h.identifiers, h'.identifiers, List.map_append]

/-- An element whose attributes have no such names has those of its children. -/
theorem Quoted.around {tag : String}
    (h : QuotedAttributes (isColumn tag (xs false)) [] attributes) (h' : QuotedAll names xs) :
    Quoted names fun all => .branch tag (attributes all) (xs all) := by
  simpa using Quoted.branch h h'

/-- An element without children has the names of its attributes. -/
theorem Quoted.childless {tag : String}
    (h : QuotedAttributes (isColumn tag []) names attributes) :
    Quoted names fun all => .branch tag (attributes all) [] := by
  simpa using Quoted.branch h .nil

end Alike

namespace Layout

/-! ## Attributes -/

section Attributes

variable {f : String → String} {column : Bool} {key : String}

/-- Changing the names of tables and columns changes a text whose `key` is that of an identifier,
and no other. -/
@[simp] theorem map_mapIdentifier_text (value : Option String) :
    (text key value).map (mapIdentifier f column) =
      if isIdentifier column key then text key (value.map f) else text key value := by
  cases value with
  | none => simp [text]
  | some v => cases h : isIdentifier column key <;> simp [text, mapIdentifier, h]

/-- The names among two lists of attributes are those of the first before those of the second. -/
@[simp] theorem attributeIdentifiers_append (xs ys : List (String × String)) :
    attributeIdentifiers column (xs ++ ys) =
      attributeIdentifiers column xs ++ attributeIdentifiers column ys := by
  simp [attributeIdentifiers]

/-- A text is such a name when its `key` is that of an identifier. -/
@[simp] theorem attributeIdentifiers_text (value : Option String) :
    attributeIdentifiers column (text key value) =
      if isIdentifier column key then value.toList else [] := by
  cases value with
  | none => simp [text, attributeIdentifiers]
  | some v => cases h : isIdentifier column key <;> simp [text, attributeIdentifiers, h]

/-- A flag that is written when it is set is a text that may be absent. -/
theorem whenTrue_eq_text (value : Bool) :
    whenTrue key value = text key (if value then some "true" else none) := by
  cases value <;> rfl

/-- A flag that is written when it is not set is a text that may be absent. -/
theorem whenFalse_eq_text (value : Bool) :
    whenFalse key value = text key (if value then none else some "false") := by
  cases value <;> rfl

/-- A flag that is always written is a text. -/
theorem always_eq_text (value : Bool) :
    always key value = text key (some (if value then "true" else "false")) := rfl

end Attributes

end Layout

/-! ## The names of an entity -/

/-- The name of the column of a property. -/
def MappedProperty.columnNames (p : MappedProperty) : List String :=
  p.column.toList.map (·.name)

/-- The names in what a collection holds. -/
def Association.contentNames (r : Association) : List String :=
  match r.element with
  | some c => c.column.toList
  | none => if r.kind == .manyToMany then r.inverseJoinColumn.toList else []

/-- The names in a collection. -/
def Association.collectionNames (r : Association) : List String :=
  r.linkTable.toList ++
    (r.foreignKeyColumn.toList ++ (r.mapKey.toList.flatMap (·.column.toList) ++ r.contentNames))

/-- The names in a relationship of a property: a relationship to one entity stands on the column of
the property, or has no column of its own. -/
def MappedProperty.associationNames (p : MappedProperty) : List String :=
  p.association.toList.flatMap fun r =>
    match r.kind with
    | .manyToOne => p.columnNames
    | .oneToOne => []
    | .oneToMany | .manyToMany => r.collectionNames

namespace MappedEntity

/-- The names of the columns of the properties that are no relationships. -/
def propertyColumns (e : MappedEntity) : List String :=
  e.columnProperties.flatMap (·.columnNames)

/-- The names in the relationships. -/
def associationNames (e : MappedEntity) : List String :=
  e.properties.flatMap (·.associationNames)

/-- The name of the discriminator column. -/
def discriminatorColumn (e : MappedEntity) : Option String :=
  e.discriminator.bind (·.column)

/-- The names of tables and columns in an entity without a parent. -/
def rootIdentifiers (e : MappedEntity) : List String :=
  e.tableName :: (e.ids.flatMap (·.columnNames) ++ e.discriminatorColumn.toList ++
    e.version.toList.flatMap (·.columnNames) ++ e.propertyColumns ++ e.associationNames)

/-- The names of tables and columns in a subclass. One in the table of its parent does not name the
table; one that is told by a discriminator value names its own table after its relationships. -/
def subclassIdentifiers (e : MappedEntity) (p : Placement) : List String :=
  if p.isDiscriminated then
    if e.tableName == p.parentTable then e.propertyColumns ++ e.associationNames
    else e.associationNames ++ (e.tableName :: (p.joinColumn.toList ++ e.propertyColumns))
  else e.tableName :: (p.joinColumn.toList ++ (e.propertyColumns ++ e.associationNames))

/-- The names of tables and columns in an entity, in the order in which they are written. -/
def identifiers (e : MappedEntity) : List String :=
  match e.placement with
  | some p => e.subclassIdentifiers p
  | none => e.rootIdentifiers

end MappedEntity

namespace Layout

/-! ## The parts of a document -/

section Parts

attribute [local simp] identifier number whenTrue_eq_text whenFalse_eq_text always_eq_text
  isIdentifier isColumn Option.toList_map

variable (p : MappedProperty) (r : Association) (e : MappedEntity)

/-- The elements of a column have its name. -/
theorem quoted_column : QuotedAll p.columnNames fun all => column all p := by
  rw [MappedProperty.columnNames, List.map_eq_flatMap]
  refine .map fun c _ => .childless ⟨fun all => ?_, fun all => ?_⟩ <;> simp

/-- The element of a property has the name of its column. -/
theorem quoted_property : Quoted p.columnNames fun all => property all p := by
  refine .around ⟨fun all => ?_, fun all => ?_⟩ (quoted_column p) <;> simp

/-- The element of a version has the name of its column. -/
theorem quoted_version : Quoted p.columnNames fun all => version all p := by
  refine .around ⟨fun all => ?_, fun all => ?_⟩ (quoted_column p) <;> simp

/-- Generators name neither tables nor columns; a sequence is a parameter. -/
theorem allIdentifiers_generators : allIdentifiers (p.generator.toList.map generator) = [] := by
  have hparameter : ∀ param, (parameter param).identifiers = [] := fun _ => rfl
  have hgenerator : ∀ g, (generator g).identifiers = [] := by
    simp [generator, Element.identifiers, attributeIdentifiers, allIdentifiers_eq_flatMap,
      List.flatMap_map, hparameter]
  simp [allIdentifiers_eq_flatMap, List.flatMap_map, hgenerator]

/-- The element of a single identifier has the name of its column. -/
theorem quoted_singleId : Quoted p.columnNames fun all => singleId all p := by
  have hchildren := (quoted_column p).append (.fixed (allIdentifiers_generators p))
  rw [List.append_nil] at hchildren
  refine .around ⟨fun all => ?_, fun all => ?_⟩ hchildren <;> simp

/-- A part of a composite identifier has the name of its column. -/
theorem quoted_keyProperty : Quoted p.columnNames fun all => keyProperty all p := by
  refine .around ⟨fun all => ?_, fun all => ?_⟩ (quoted_column p) <;> simp

/-- The identifier of an entity has the names of the columns of its parts, in order. -/
theorem quoted_identity (ids : List MappedProperty) :
    QuotedAll (ids.flatMap (·.columnNames)) fun all => identity all ids := by
  match ids with
  | [] => exact .nil
  | [p] => simpa [identity] using QuotedAll.single (quoted_singleId p)
  | p :: q :: rest =>
    have hkeys : QuotedAll ((p :: q :: rest).flatMap (·.columnNames)) fun all =>
        (p :: q :: rest).map (keyProperty all) :=
      .map fun p _ => quoted_keyProperty p
    exact .single (.around ⟨fun _ => rfl, fun _ => rfl⟩ hkeys)

/-- A many-to-one has the name of the column of its property. -/
theorem quoted_manyToOne : Quoted p.columnNames fun all => manyToOne all p r := by
  refine .childless ⟨fun all => ?_, fun all => ?_⟩ <;>
    simp [MappedProperty.columnNames, Function.comp_def]

/-- A one-to-one names neither tables nor columns. -/
theorem quoted_oneToOne : Quoted [] fun _ => oneToOne p r :=
  .fixed (by simp [oneToOne, Element.identifiers, allIdentifiers])

/-- A column in a collection has its own name. -/
theorem quoted_collectionColumn (tag : String) (c : CollectionColumn) :
    Quoted c.column.toList fun all => collectionColumn all tag c := by
  refine .childless ⟨fun all => ?_, fun all => ?_⟩ <;> simp

/-- What a collection holds has the names `Association.contentNames`. -/
theorem quoted_collectionContent : Quoted r.contentNames fun all => collectionContent all r := by
  unfold collectionContent Association.contentNames
  cases r.element with
  | some c => exact quoted_collectionColumn "element" c
  | none =>
    by_cases hkind : r.kind == .manyToMany
    · simp only [hkind, if_true]
      refine .childless ⟨fun all => ?_, fun all => ?_⟩ <;> simp
    · simp only [hkind, Bool.false_eq_true, if_false]
      exact .fixed (by simp [Element.identifiers, allIdentifiers])

/-- The key of a collection has the name of the foreign key. -/
theorem quoted_collectionKey :
    Quoted r.foreignKeyColumn.toList fun all => collectionKey all r := by
  refine .childless ⟨fun all => ?_, fun all => ?_⟩ <;> simp

/-- A collection has the names `Association.collectionNames`: its link table, then its key, the key
of a map and its content. -/
theorem quoted_collection : Quoted r.collectionNames fun all => collection all p r := by
  have hmapKey : QuotedAll (r.mapKey.toList.flatMap (·.column.toList)) fun all =>
      r.mapKey.toList.map (collectionColumn all "map-key") :=
    .map fun c _ => quoted_collectionColumn "map-key" c
  refine .branch ⟨fun all => ?_, fun all => ?_⟩
    (.cons (quoted_collectionKey r) (hmapKey.append (.single (quoted_collectionContent r)))) <;>
    simp

/-- The elements of relationships have the names of the relationships in order. -/
theorem quoted_associations (ps : List MappedProperty) :
    QuotedAll (ps.flatMap (·.associationNames)) fun all => associations all ps := by
  refine .flatMap fun p _ => .map fun r _ => ?_
  unfold association
  cases r.kind with
  | manyToOne => exact quoted_manyToOne p r
  | oneToOne => exact quoted_oneToOne p r
  | oneToMany => exact quoted_collection p r
  | manyToMany => exact quoted_collection p r

/-- The elements of columns have the names of the columns in order. -/
theorem quoted_properties : QuotedAll e.propertyColumns fun all => properties all e :=
  .map fun p _ => quoted_property p

/-- A cache names neither tables nor columns. -/
theorem allIdentifiers_cache : allIdentifiers (cache e) = [] := by
  unfold cache
  cases e.cache <;> simp [allIdentifiers, Element.identifiers]

/-- The element of a discriminator has the name of its column. A discriminator without a column and
without a formula is not written. -/
theorem quoted_discriminator :
    QuotedAll e.discriminatorColumn.toList fun all => discriminator all e := by
  unfold discriminator MappedEntity.discriminatorColumn
  cases e.discriminator with
  | none => exact .nil
  | some d =>
    -- what is not written has no column, so no name is lost
    by_cases hwritten : d.column.isNone && d.formula.isNone
    · have hcolumn : d.column = none := by
        simpa using (Bool.and_eq_true_iff.mp hwritten).1
      simp only [hwritten, if_true]
      simp only [Option.bind_some, hcolumn]
      exact .nil
    · simp only [hwritten, Bool.false_eq_true, if_false]
      refine .single (.childless ⟨fun all => ?_, fun all => ?_⟩) <;> simp

/-- Among the attributes of storage the table is the one such name; schema and catalog are none. -/
theorem quoted_storage {column : Bool} :
    QuotedAttributes column [e.tableName] fun all => storage all e := by
  refine ⟨fun all => ?_, fun all => ?_⟩ <;> simp [storage]

/-- Among the attributes of a class the table is the one such name. -/
theorem quoted_classAttributes {column : Bool} :
    QuotedAttributes column [e.tableName] fun all => classAttributes all e := by
  refine ⟨fun all => ?_, fun all => ?_⟩ <;> simp [classAttributes, storage, options]

/-- The start of a class names its table. -/
theorem quoted_classStart : Quoted [e.tableName] fun all => classStart all e :=
  .branch (quoted_classAttributes e) (.fixed (allIdentifiers_cache e))

/-- The element of a class has the names `rootIdentifiers`, in document order. -/
theorem quoted_classElement : Quoted e.rootIdentifiers fun all => classElement all e := by
  have hversion : QuotedAll (e.version.toList.flatMap (·.columnNames)) fun all =>
      e.version.toList.map (version all) :=
    .map fun p _ => quoted_version p
  -- the parts in document order; the cache has no such names
  exact .branch (quoted_classAttributes e)
    ((((((QuotedAll.fixed (allIdentifiers_cache e)).append (quoted_identity e.ids)).append
      (quoted_discriminator e)).append hversion).append (quoted_properties e)).append
        (quoted_associations e.properties))

/-- The key of a join has the name of the join column, if there is one. -/
theorem quoted_joinKey (p : Placement) :
    Quoted p.joinColumn.toList fun all => joinKey all p := by
  refine .childless ⟨fun all => ?_, fun all => ?_⟩ <;> simp

/-- The element of a subclass has the names `subclassIdentifiers`, in document order. -/
theorem quoted_subclassElement (p : Placement) :
    Quoted (e.subclassIdentifiers p) fun all => subclassElement all e p := by
  have hproperties := quoted_properties e
  have hassociations := quoted_associations e.properties
  -- the names follow the three shapes of a subclass, as the table and the join stand elsewhere in
  -- each
  unfold subclassElement MappedEntity.subclassIdentifiers
  split
  · unfold discriminatedElement
    split
    · refine .around ⟨fun all => ?_, fun all => ?_⟩
        (hproperties.append hassociations) <;> simp [options]
    · have hjoin : Quoted (e.tableName :: (p.joinColumn.toList ++ e.propertyColumns)) fun all =>
          .branch "join" (storage all e) (joinKey all p :: properties all e) :=
        .branch (quoted_storage e) (.cons (quoted_joinKey p) hproperties)
      refine .around ⟨fun all => ?_, fun all => ?_⟩
        (hassociations.append (.single hjoin)) <;> simp [options]
  · have hattributes : ∀ column, QuotedAttributes column [e.tableName] fun all =>
        text "entity-name" (some e.entityName) ++ text "extends" (some p.entityRef) ++
          storage all e ++ options e := by
      refine fun column => ⟨fun all => ?_, fun all => ?_⟩ <;> simp [storage, options]
    exact .branch (hattributes _) (.cons (quoted_joinKey p) (hproperties.append hassociations))

end Parts

end Layout

namespace MappedEntity

variable (e : MappedEntity)

/-- The element of any entity has the names `identifiers`, in document order. -/
theorem quoted_element : Quoted e.identifiers fun all => e.element all := by
  unfold element identifiers
  cases e.placement with
  | some p => exact Layout.quoted_subclassElement e p
  | none => exact Layout.quoted_classElement e

/-- A table named like a reserved word is quoted in both settings, a column only with all others. -/
example :
    let e : MappedEntity :=
      { entityName := "shop.order", tableName := "Order",
        ids := [{ name := "id", column := some { name := "nr" } }] }
    (e.element false).identifiers = ["`Order`", "nr"] ∧
      (e.element true).identifiers = ["`Order`", "`nr`"] := by
  decide +kernel

/-- The fault of a document is the same in both settings. -/
theorem documentFault?_eq (all : Bool) : e.documentFault? all = e.documentFault? false := by
  -- the setting only changes names by `quoteIdentifier`, which keeps what XML allows
  have hfault : ∀ {names x}, Quoted names x → (x all).fault? = (x false).fault? := fun h => by
    rw [h.requoted all, fault?_mapIdentifiers (isXmlText_quoteIdentifier all)]
  unfold documentFault?
  rw [hfault (Layout.quoted_classStart e), hfault e.quoted_element]

/-- An entity has no document in either setting, for one `fault`, or it has both. The document with
all names quoted is the other one with each name of a table or column quoted, the names are written
as the setting asks, and nothing else that has the tag of columns has such names. -/
theorem document_quoting :
    (∃ fault, ∀ all, e.document all = .error fault) ∨
      ∃ written : Bool → Element, (∀ all, e.document all = .ok ⟨written all⟩) ∧
        written true = (written false).mapIdentifiers (quoteIdentifier true) ∧
        (∀ all, List.Forall₂ (WrittenAs all) e.identifiers (written all).identifiers) ∧
        ((∀ p ∈ e.properties, ∀ r ∈ p.association, r.collectionTag ≠ "column") →
          ∀ all, (written all).ColumnsBare) := by
  cases hfault : e.documentFault? false with
  | some fault =>
    refine .inl ⟨fault, fun all => ?_⟩
    rw [document, e.documentFault?_eq, hfault]
  | none =>
    refine .inr ⟨fun all => e.element all, fun all => ?_, e.quoted_element.requoted true,
      fun all => ?_, fun htags all => e.columnsBare_element all htags⟩
    · rw [document, e.documentFault?_eq, hfault]
    · rw [e.quoted_element.identifiers all, List.forall₂_map_right_iff, List.forall₂_same]
      exact fun name _ => writtenAs_quoteIdentifier all name

end MappedEntity

end OrmMapping
