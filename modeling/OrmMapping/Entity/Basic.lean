import OrmMapping.Dialect
import OrmMapping.Property.Basic

/-!
# Mapped entities

What a persistent class is in the mapping, whichever vocabulary declared it.

* `Discriminator`, `Cache`, `Placement`: the parts of the class-level mapping;
* `MappedEntity`: one mapped entity, with its properties in three places.
-/

namespace OrmMapping

/-- How the rows of a class hierarchy tell their class. -/
structure Discriminator where
  value : Option String := none
  column : Option String := none
  type : Option String := none
  formula : Option String := none
  force : Bool := false
  insert : Bool := true
deriving DecidableEq, Repr

/-- How entities are cached. -/
structure Cache where
  usage : String
  region : Option String := none
  included : Option String := none
deriving DecidableEq, Repr

/-- The place of a subclass under its parent entity. One with a discriminator value shares the
table of the hierarchy; one without has a table of its own, joined on a column. -/
structure Placement where
  parent : String
  parentTable : String
  joinColumn : Option String := none
  discriminatorValue : Option String := none
  parentEntity : Option String := none
deriving DecidableEq, Repr

namespace Placement

/-- Whether the subclass is told by a discriminator value. -/
def isDiscriminated (p : Placement) : Bool :=
  p.discriminatorValue.isSome

/-- The parent entity, as written while it is not resolved. -/
def entityRef (p : Placement) : String :=
  (nonEmpty? p.parentEntity).getD p.parent

end Placement

/-- One mapped entity. -/
structure MappedEntity where
  entityName : String
  tableName : String
  ids : List MappedProperty
  properties : List MappedProperty := []
  version : Option MappedProperty := none
  dialect : Dialect := .modern
  schema : Option String := none
  catalog : Option String := none
  extended : Bool := false
  immutable : Bool := false
  dynamicInsert : Bool := false
  dynamicUpdate : Bool := false
  selectBeforeUpdate : Bool := false
  batchSize : Option Int := none
  rowId : Option String := none
  lazy : Bool := false
  optimisticLock : Option String := none
  condition : Option String := none
  discriminator : Option Discriminator := none
  cache : Option Cache := none
  datasource : Option String := none
  placement : Option Placement := none
deriving DecidableEq, Repr

namespace MappedEntity

/-- Whether the entity is mapped under a parent. -/
def isSubclass (e : MappedEntity) : Bool :=
  e.placement.isSome

/-- The properties that are no relationships, in order. -/
def columnProperties (e : MappedEntity) : List MappedProperty :=
  e.properties.filter (·.association.isNone)

/-- The properties that are relationships, in order. -/
def associations (e : MappedEntity) : List MappedProperty :=
  e.properties.filter (·.association.isSome)

end MappedEntity

end OrmMapping
