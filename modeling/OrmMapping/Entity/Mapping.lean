import OrmMapping.Entity.Inherited

/-!
# From descriptors to mapped entities

A class is mapped from its class-level facts, its place under a parent and its properties. Every
property lands in one of three places: identifiers, the version, all others.

* `PropertyPlaces.ofDecls`: the properties in their places;
* `MappedEntity.ofDescriptor`: the mapping of a class.
-/

namespace OrmMapping

/-- Mapped properties in their places, each in order. -/
structure PropertyPlaces where
  ids : List MappedProperty := []
  version : Option MappedProperty := none
  others : List MappedProperty := []
deriving DecidableEq, Repr

/-- Adds a property in its place. There is one version; a further one is dropped with a warning. -/
def PropertyPlaces.add (places : PropertyPlaces) (p : MappedProperty) (entity : String) :
    Report PropertyPlaces := do
  if p.isId then
    return { places with ids := places.ids ++ [p] }
  else if p.isVersion then
    if places.version.isSome then
      Report.warn (.extraVersion entity p.name)
      return places
    return { places with version := some p }
  else
    return { places with others := places.others ++ [p] }

/-- Maps declared properties in turn and puts them in their places. `seen` holds the lower-case
names so far, which must not come again. -/
def PropertyPlaces.addDecls (dialect : Dialect) (a : Annotations) :
    (seen : List String) → PropertyPlaces → List PropertyDecl → Report PropertyPlaces
  | _, places, [] => pure places
  | seen, places, decl :: rest => do
    match ← MappedProperty.ofDecl decl dialect a.entity with
    | none => addDecls dialect a seen places rest
    | some p =>
      let key := Text.lower p.name
      if seen.contains key then
        Report.fail (a.malformed (.duplicateProperty p.name))
      else
        let places ← places.add p a.entity
        addDecls dialect a (key :: seen) places rest

/-- The mapped properties of a class in their places. -/
def PropertyPlaces.ofDecls (dialect : Dialect) (a : Annotations) (decls : List PropertyDecl) :
    Report PropertyPlaces :=
  addDecls dialect a [] {} decls

/-- The table of a class at its place: a discriminated subclass that declares no table is kept in
its parent's. -/
def tableAt (facts : ClassFacts) (declared : Option String) : Option Placement → String
  | some p => if p.isDiscriminated && declared.isNone then p.parentTable else facts.tableName
  | none => facts.tableName

/-- Whether a class of this table needs a column to join it to its parent's table. -/
def Placement.needsKey (p : Placement) (table : String) : Bool :=
  !p.isDiscriminated || table != p.parentTable

/-- The flags of the class that both vocabularies share. -/
structure UpdateFlags where
  dynamicInsert : Bool := false
  dynamicUpdate : Bool := false
  selectBeforeUpdate : Bool := false
deriving DecidableEq, Repr

/-- Reads the flags that both vocabularies share. -/
def UpdateFlags.read (a : Annotations) : Except MappingError UpdateFlags := do
  let dynamicInsert ← a.flag "dynamicinsert"
  let dynamicUpdate ← a.flag "dynamicupdate"
  let selectBeforeUpdate ← a.flag "selectbeforeupdate"
  return { dynamicInsert, dynamicUpdate, selectBeforeUpdate }

/-- Fails unless a class with a table of its own can be joined to its parent. -/
def requireKey (a : Annotations) (table : String) : Option Placement → Except MappingError Unit
  | some p =>
    if p.needsKey table && p.joinColumn.isNone then .error (a.malformed .joinColumnRequired)
    else .ok ()
  | none => .ok ()

/-- Fails for a class that neither has an identifier nor a parent that has one. -/
def requireIdentifier (a : Annotations) (places : PropertyPlaces) (placement : Option Placement) :
    Except MappingError Unit :=
  if places.ids.isEmpty && placement.isNone then .error (a.malformed .noIdentifier) else .ok ()

/-- Whether the class extends a class that has a name. -/
def Descriptor.isExtended (d : Descriptor) : Bool :=
  d.parent?.any fun p => !p.name.isEmpty

/-- The mapping of a class. The datasource given is the entity's when its class names none. -/
def MappedEntity.ofDescriptor (d : Descriptor) (fallback : Option String) :
    Report MappedEntity := do
  let properties ← d.effectiveProperties
  let facts ← ClassFacts.read d
  let a := d.annotationSet facts.entityName
  let placement ← Placement.of? d a facts.discriminator
  let declared ← d.declaredTable
  let tableName := tableAt facts declared placement
  requireKey a tableName placement
  let places ← PropertyPlaces.ofDecls d.dialect a properties
  requireIdentifier a places placement
  let flags ← UpdateFlags.read a
  let datasource ← d.datasource fallback
  return {
    entityName := facts.entityName
    tableName, placement, datasource
    ids := places.ids
    properties := places.others
    version := places.version
    dialect := d.dialect
    schema := facts.schema
    catalog := facts.catalog
    extended := d.isExtended
    immutable := facts.immutable
    dynamicInsert := flags.dynamicInsert
    dynamicUpdate := flags.dynamicUpdate
    selectBeforeUpdate := flags.selectBeforeUpdate
    batchSize := facts.batchSize
    rowId := facts.rowId
    lazy := facts.lazy
    optimisticLock := facts.optimisticLock
    condition := facts.condition
    discriminator := facts.discriminator
    cache := facts.cache }

end OrmMapping
