import OrmMapping.Annotation.Basic
import OrmMapping.Descriptor.Basic
import OrmMapping.Entity.Basic
import OrmMapping.Property.Facts

/-!
# Class-level facts

What the annotations of a class say about the entity as a whole, in either vocabulary.

* `Descriptor.entityName`, `Descriptor.declaredTable`, `Descriptor.datasource`: single facts;
* `ClassFacts.read`: all facts that the mapping of a class takes from its annotations.
-/

namespace OrmMapping

namespace Descriptor

/-- The vocabulary of the class. -/
def dialect (d : Descriptor) : Dialect :=
  Dialect.classify d.annotations

/-- Whether the class is persistent. -/
def isPersistent (d : Descriptor) : Bool :=
  isEntity d.annotations

/-- The class-level annotations; errors mention the entity by the name given. -/
def annotationSet (d : Descriptor) (entity : String) : Annotations :=
  { entries := d.annotations, entity }

/-- The class-level annotations; errors mention the bare class name. -/
def classAnnotations (d : Descriptor) : Annotations :=
  d.annotationSet d.className

/-- The entity name that is declared, or else the bare class name. -/
def entityName (d : Descriptor) : Except MappingError String := do
  let declared ←
    match d.dialect with
    | .classic => d.classAnnotations.text? "entityname"
    | .modern => (d.classAnnotations.nested "entity").text? "name"
  return declared.getD d.className

/-- The table that is declared. -/
def declaredTable (d : Descriptor) : Except MappingError (Option String) :=
  match d.dialect with
  | .classic => d.classAnnotations.text? "table"
  | .modern => (d.classAnnotations.nested "table").text? "name"

/-- The datasource that is declared, or else the one given. -/
def datasource (d : Descriptor) (fallback : Option String) :
    Except MappingError (Option String) := do
  let declared ← d.classAnnotations.text? "datasource"
  return declared.or fallback

end Descriptor

/-- What the annotations of a class say about the entity as a whole. -/
structure ClassFacts where
  entityName : String
  tableName : String
  schema : Option String := none
  catalog : Option String := none
  immutable : Bool := false
  lazy : Bool := false
  batchSize : Option Int := none
  rowId : Option String := none
  optimisticLock : Option String := none
  condition : Option String := none
  discriminator : Option Discriminator := none
  cache : Option Cache := none
deriving DecidableEq, Repr

/-! ## The classic vocabulary -/

/-- A text of the nested set, or else the flat one. -/
def nestedOrFlat (inner : Annotations) (innerKeys : List String) (a : Annotations) (key : String) :
    Except MappingError (Option String) := do
  match ← inner.firstText? innerKeys with
  | some text => return some text
  | none => a.text? key

/-- The discriminator: a nested set, flat keys, or both, where the nested set comes first. -/
def classicDiscriminator (a : Annotations) : Except MappingError (Option Discriminator) := do
  let inner := a.nested "discriminator" "value"
  if inner.entries.isEmpty && !a.has "discriminatorcolumn" && !a.has "discriminatorvalue" then
    return none
  let value ← nestedOrFlat inner ["value"] a "discriminatorvalue"
  let column ← nestedOrFlat inner ["column", "name"] a "discriminatorcolumn"
  let type ← nestedOrFlat inner ["type"] a "discriminatortype"
  let formula ← nestedOrFlat inner ["formula"] a "discriminatorformula"
  let force ← if ← inner.flag "force" then pure true else a.flag "discriminatorforce"
  let insert ← if ← inner.flag "insert" true then a.flag "discriminatorinsert" true else pure false
  return some { value, column, type, formula, force, insert }

/-- The cache: it needs a way of use. -/
def classicCache (a : Annotations) : Except MappingError (Option Cache) := do
  match ← a.text? "cacheuse" with
  | none => return none
  | some usage =>
    let region ← a.text? "cachename"
    let included ← a.text? "cacheinclude"
    return some { usage, region, included }

/-- All class-level facts in the classic vocabulary. -/
def ClassFacts.readClassic (entityName : String) (a : Annotations) :
    Except MappingError ClassFacts := do
  let discriminator ← classicDiscriminator a
  let cache ← classicCache a
  let table ← a.text? "table"
  let schema ← a.text? "schema"
  let catalog ← a.text? "catalog"
  let immutable ← a.flag "readonly"
  let lazy ← a.flag "lazy"
  let batchSize ← a.integer? "batchsize"
  let rowId ← a.text? "rowid"
  let optimisticLock ← a.text? "optimisticlock"
  let condition ← a.text? "where"
  return { entityName, tableName := table.getD entityName, schema, catalog, immutable, lazy,
           batchSize, rowId, optimisticLock, condition, discriminator, cache }

/-! ## The modern vocabulary -/

/-- The discriminator: a nested set. -/
def modernDiscriminator (a : Annotations) : Except MappingError (Option Discriminator) := do
  if !a.has "discriminator" then
    return none
  let inner := a.nested "discriminator" "value"
  let value ← inner.text? "value"
  let column ← inner.firstText? ["column", "name"]
  let type ← inner.text? "type"
  let formula ← inner.text? "formula"
  let force ← inner.flag "force"
  let insert ← inner.flag "insert" true
  return some { value, column, type, formula, force, insert }

/-- The cache: a nested set, which needs a strategy. -/
def modernCache (a : Annotations) : Except MappingError (Option Cache) := do
  if !a.has "cache" then
    return none
  let options := a.nested "cache" "strategy"
  match ← options.firstText? ["strategy", "usage"] with
  | none => throw (a.malformed .cacheWithoutStrategy)
  | some usage =>
    let region ← options.text? "region"
    let included ← options.text? "include"
    return some { usage, region, included }

/-- All class-level facts in the modern vocabulary. -/
def ClassFacts.readModern (entityName : String) (a : Annotations) :
    Except MappingError ClassFacts := do
  let tableSet := a.nested "table"
  let discriminator ← modernDiscriminator a
  let cache ← modernCache a
  let table ← tableSet.text? "name"
  let schema ← tableSet.text? "schema"
  let catalog ← tableSet.text? "catalog"
  let immutable := a.has "immutable"
  let lazy ← a.flag "lazy" true
  let batchSize ← a.integer? "batchsize"
  let rowId ← a.text? "rowid"
  let optimisticLock ← a.text? "optimisticlock"
  let condition ← a.text? "where"
  return { entityName, tableName := table.getD entityName, schema, catalog, immutable, lazy,
           batchSize, rowId, optimisticLock, condition, discriminator, cache }

/-- The class-level facts, read in the vocabulary of the class. -/
def ClassFacts.read (d : Descriptor) : Except MappingError ClassFacts := do
  let entityName ← d.entityName
  match d.dialect with
  | .classic => ClassFacts.readClassic entityName d.classAnnotations
  | .modern => ClassFacts.readModern entityName d.classAnnotations

end OrmMapping
