import OrmMapping.Document.Identifier
import OrmMapping.Document.Printer
import OrmMapping.Entity.Basic

/-!
# The layout of mapping documents

Which elements and attributes an entity is written with, and in which order. An entity without a
parent is a `class`; a subclass is a `subclass` in its parent's table or a `joined-subclass` with
a table of its own, and leaves the identifier, version, cache and discriminator column to the root
of its hierarchy.

* `MappedEntity.element`: the element of an entity;
* `MappedEntity.document`: its document, or why there is none.
-/

namespace OrmMapping

namespace Layout

/-! ## Attributes -/

/-- An attribute that is left out when it has no value. -/
def text (name : String) (value : Option String) : List (String × String) :=
  value.toList.map (name, ·)

/-- An attribute of a table or column name. -/
def identifier (quoteAll : Bool) (name : String) (value : Option String) :
    List (String × String) :=
  text name (value.map (quoteIdentifier quoteAll))

/-- An attribute of a whole number. -/
def number (name : String) (value : Option Int) : List (String × String) :=
  text name (value.map toString)

/-- An attribute that is written when it is true. -/
def whenTrue (name : String) (value : Bool) : List (String × String) :=
  if value then [(name, "true")] else []

/-- An attribute that is written when it is false. -/
def whenFalse (name : String) (value : Bool) : List (String × String) :=
  if value then [] else [(name, "false")]

/-- An attribute that is always written. -/
def always (name : String) (value : Bool) : List (String × String) :=
  [(name, if value then "true" else "false")]

/-! ## Columns and plain properties -/

/-- The column of a property. -/
def column (quoteAll : Bool) (p : MappedProperty) : List Element :=
  p.column.toList.map fun c =>
    .branch "column"
      (identifier quoteAll "name" (some c.name) ++ text "sql-type" c.sqlType ++
        number "length" c.length ++ number "precision" c.precision ++ number "scale" c.scale ++
        text "default" c.defaultValue ++ text "unique-key" c.uniqueKey ++
        whenTrue "not-null" (!p.nullable) ++ whenTrue "unique" p.unique)
      []

/-- A property that is no relationship. -/
def property (quoteAll : Bool) (p : MappedProperty) : Element :=
  .branch "property"
    (text "name" (some p.name) ++ text "type" (some p.type.name) ++ text "formula" p.formula ++
      whenFalse "insert" p.insertable ++ whenFalse "update" p.updatable ++
      whenTrue "lazy" p.lazy ++ whenFalse "optimistic-lock" p.lockSensitive)
    (column quoteAll p)

/-- The version of an entity. -/
def version (quoteAll : Bool) (p : MappedProperty) : Element :=
  .branch "version"
    (text "name" (some p.name) ++ text "type" (some p.type.name) ++
      text "unsaved-value" p.unsavedValue ++ whenFalse "insert" p.insertable)
    (column quoteAll p)

/-! ## Identifiers -/

/-- A parameter of a generator. -/
def parameter (param : String × String) : Element :=
  .leaf "param" [("name", param.1)] param.2

/-- The parameters of a generator: its key and its sequence before those of its own. -/
def parameters (g : Generator) : List (String × String) :=
  g.selectKey.toList.map ("key", ·) ++ g.sequence.toList.map ("sequence", ·) ++ g.params

/-- How identifiers are made. -/
def generator (g : Generator) : Element :=
  .branch "generator" [("class", g.strategy)] ((parameters g).map parameter)

/-- A single identifier. -/
def singleId (quoteAll : Bool) (p : MappedProperty) : Element :=
  .branch "id"
    (text "name" (some p.name) ++ text "type" (some p.type.name) ++
      text "unsaved-value" p.unsavedValue)
    (column quoteAll p ++ p.generator.toList.map generator)

/-- One of several properties that identify the entity together. -/
def keyProperty (quoteAll : Bool) (p : MappedProperty) : Element :=
  .branch "key-property" (text "name" (some p.name) ++ text "type" (some p.type.name))
    (column quoteAll p)

/-- The identifier of an entity, composite when there are several properties. -/
def identity (quoteAll : Bool) : List MappedProperty → List Element
  | [] => []
  | [p] => [singleId quoteAll p]
  | ps => [.branch "composite-id" [] (ps.map (keyProperty quoteAll))]

/-! ## Relationships -/

/-- A relationship to one entity by a foreign key. -/
def manyToOne (quoteAll : Bool) (p : MappedProperty) (r : Association) : Element :=
  .branch "many-to-one"
    (text "name" (some p.name) ++ text "entity-name" (some r.entityRef) ++
      identifier quoteAll "column" (p.column.map (·.name)) ++ text "formula" p.formula ++
      text "cascade" r.cascade ++ text "fetch" r.fetch ++ text "lazy" r.lazy ++
      text "foreign-key" r.foreignKeyName ++ whenFalse "insert" p.insertable ++
      whenFalse "update" p.updatable ++ whenTrue "not-null" (!p.nullable) ++
      whenTrue "unique" p.unique ++
      text "not-found" (if r.missingRowIgnored then some "ignore" else none))
    []

/-- A relationship to one entity that shares its key. -/
def oneToOne (p : MappedProperty) (r : Association) : Element :=
  .branch "one-to-one"
    (text "name" (some p.name) ++ text "entity-name" (some r.entityRef) ++
      text "property-ref" r.mappedBy ++ text "cascade" r.cascade ++ text "fetch" r.fetch ++
      text "lazy" r.lazy ++ text "foreign-key" r.foreignKeyName ++
      whenTrue "constrained" r.constrained ++ text "formula" p.formula)
    []

/-- The column of a map's keys or of a collection's values. -/
def collectionColumn (quoteAll : Bool) (tag : String) (c : CollectionColumn) : Element :=
  .branch tag
    (identifier quoteAll "column" c.column ++ text "type" (some c.type) ++
      text "formula" c.formula)
    []

/-- What a collection holds: plain values, entities by way of a link table, or entities. -/
def collectionContent (quoteAll : Bool) (r : Association) : Element :=
  match r.element with
  | some c => collectionColumn quoteAll "element" c
  | none =>
    if r.kind == .manyToMany then
      .branch "many-to-many"
        (text "entity-name" (some r.entityRef) ++
          identifier quoteAll "column" r.inverseJoinColumn)
        []
    else
      .branch "one-to-many" (text "entity-name" (some r.entityRef)) []

/-- The foreign key of a collection. -/
def collectionKey (quoteAll : Bool) (r : Association) : Element :=
  .branch "key"
    (identifier quoteAll "column" r.foreignKeyColumn ++ text "property-ref" r.mappedBy ++
      text "foreign-key" r.foreignKeyName)
    []

/-- A relationship to any number of entities. -/
def collection (quoteAll : Bool) (p : MappedProperty) (r : Association) : Element :=
  .branch r.collectionTag
    (text "name" (some p.name) ++ identifier quoteAll "table" r.linkTable ++
      text "schema" r.linkSchema ++ text "catalog" r.linkCatalog ++ text "lazy" r.lazy ++
      text "cascade" r.cascade ++ text "fetch" r.fetch ++ whenTrue "inverse" r.inverse ++
      text "where" r.condition ++ text "order-by" r.orderBy ++ number "batch-size" r.batchSize ++
      whenFalse "optimistic-lock" p.lockSensitive)
    (collectionKey quoteAll r ::
      (r.mapKey.toList.map (collectionColumn quoteAll "map-key") ++
        [collectionContent quoteAll r]))

/-- A relationship. -/
def association (quoteAll : Bool) (p : MappedProperty) (r : Association) : Element :=
  match r.kind with
  | .manyToOne => manyToOne quoteAll p r
  | .oneToOne => oneToOne p r
  | .oneToMany | .manyToMany => collection quoteAll p r

/-- The relationships among some properties, in order. -/
def associations (quoteAll : Bool) (ps : List MappedProperty) : List Element :=
  ps.flatMap fun p => p.association.toList.map (association quoteAll p)

/-! ## Entities -/

/-- The attributes on how an entity is loaded and updated. -/
def options (e : MappedEntity) : List (String × String) :=
  whenTrue "dynamic-insert" e.dynamicInsert ++ whenTrue "dynamic-update" e.dynamicUpdate ++
    whenTrue "select-before-update" e.selectBeforeUpdate ++ number "batch-size" e.batchSize ++
    always "lazy" e.lazy

/-- The attributes on where an entity is stored. -/
def storage (quoteAll : Bool) (e : MappedEntity) : List (String × String) :=
  identifier quoteAll "table" (some e.tableName) ++ text "schema" e.schema ++
    text "catalog" e.catalog

/-- The attributes of an entity without a parent. -/
def classAttributes (quoteAll : Bool) (e : MappedEntity) : List (String × String) :=
  text "entity-name" (some e.entityName) ++ storage quoteAll e ++
    text "discriminator-value" (e.discriminator.bind (·.value)) ++ options e ++
    text "optimistic-lock" e.optimisticLock ++ whenFalse "mutable" (!e.immutable) ++
    text "rowid" e.rowId ++ text "where" e.condition

/-- How an entity is cached. -/
def cache (e : MappedEntity) : List Element :=
  e.cache.toList.map fun c =>
    .branch "cache"
      (text "usage" (some c.usage) ++ text "region" c.region ++ text "include" c.included) []

/-- The column that tells the classes of a hierarchy apart, if there is a column or formula. -/
def discriminator (quoteAll : Bool) (e : MappedEntity) : List Element :=
  match e.discriminator with
  | none => []
  | some d =>
    if d.column.isNone && d.formula.isNone then []
    else
      [.branch "discriminator"
        (identifier quoteAll "column" d.column ++ text "type" d.type ++
          whenTrue "force" d.force ++ whenFalse "insert" d.insert ++ text "formula" d.formula)
        []]

/-- The properties of an entity that are no relationships. -/
def properties (quoteAll : Bool) (e : MappedEntity) : List Element :=
  e.columnProperties.map (property quoteAll)

/-- An entity without a parent. -/
def classElement (quoteAll : Bool) (e : MappedEntity) : Element :=
  .branch "class" (classAttributes quoteAll e)
    (cache e ++ identity quoteAll e.ids ++ discriminator quoteAll e ++
      e.version.toList.map (version quoteAll) ++ properties quoteAll e ++
      associations quoteAll e.properties)

/-- The column that joins a table to the parent's. -/
def joinKey (quoteAll : Bool) (p : Placement) : Element :=
  .branch "key" (identifier quoteAll "column" p.joinColumn) []

/-- A subclass told by a discriminator value. When it has another table than its parent, its
columns stand in a join with that table, after its relationships. -/
def discriminatedElement (quoteAll : Bool) (e : MappedEntity) (p : Placement) : Element :=
  .branch "subclass"
    (text "entity-name" (some e.entityName) ++ text "extends" (some p.entityRef) ++
      text "discriminator-value" p.discriminatorValue ++ options e)
    (if e.tableName == p.parentTable then
      properties quoteAll e ++ associations quoteAll e.properties
    else
      associations quoteAll e.properties ++
        [.branch "join" (storage quoteAll e) (joinKey quoteAll p :: properties quoteAll e)])

/-- A subclass with a table of its own. -/
def joinedElement (quoteAll : Bool) (e : MappedEntity) (p : Placement) : Element :=
  .branch "joined-subclass"
    (text "entity-name" (some e.entityName) ++ text "extends" (some p.entityRef) ++
      storage quoteAll e ++ options e)
    (joinKey quoteAll p :: (properties quoteAll e ++ associations quoteAll e.properties))

/-- A subclass. -/
def subclassElement (quoteAll : Bool) (e : MappedEntity) (p : Placement) : Element :=
  if p.isDiscriminated then discriminatedElement quoteAll e p else joinedElement quoteAll e p

/-- The part of an entity that comes before its identifier. -/
def classStart (quoteAll : Bool) (e : MappedEntity) : Element :=
  .branch "class" (classAttributes quoteAll e) (cache e)

end Layout

namespace MappedEntity

/-- The element of an entity. -/
def element (e : MappedEntity) (quoteAll : Bool) : Element :=
  match e.placement with
  | some p => Layout.subclassElement quoteAll e p
  | none => Layout.classElement quoteAll e

/-- Why an entity has no document: something in it is not allowed in XML, or it is no subclass and
has no identifier. Of several reasons the first in document order counts. -/
def documentFault? (e : MappedEntity) (quoteAll : Bool) : Option DocumentFault :=
  if e.placement.isNone && e.ids.isEmpty then
    (Layout.classStart quoteAll e).fault?.or (some .missingIdentifier)
  else
    (e.element quoteAll).fault?

/-- The document of an entity. -/
def document (e : MappedEntity) (quoteAll : Bool) : Except DocumentFault Document :=
  match e.documentFault? quoteAll with
  | some fault => .error fault
  | none => .ok ⟨e.element quoteAll⟩

end MappedEntity

end OrmMapping
