import OrmMapping.Entity.ClassFacts
import OrmMapping.Property.Mapping

/-!
# What a class has from its ancestors

A class takes over the properties of a mapped superclass, which is not persistent itself, and is
placed under a parent that is persistent.

* `effectiveProperties`: own properties and those of mapped superclasses;
* `Placement.of?`: the place of a class under a persistent parent.
-/

namespace OrmMapping

/-- Whether a class hands its properties down: it is marked so and is not persistent. -/
def handsDown (c : ClassDecl) : Except MappingError Bool := do
  let a : Annotations := { entries := c.annotations, entity := c.className }
  let marked ← a.flag "mappedsuperclass"
  return marked && !isEntity c.annotations

/-- The inherited properties that are not declared again, then the own ones. -/
def overrideBy (own inherited : List PropertyDecl) : List PropertyDecl :=
  let names := own.map fun p => Text.lower p.name
  (inherited.filter fun p => !names.contains (Text.lower p.name)) ++ own

/-- The properties of a class below the ancestors given: its own, after those of the mapped
superclasses directly above it. -/
def effectivePropertiesOf (own : ClassDecl) :
    List ClassDecl → Except MappingError (List PropertyDecl)
  | [] => .ok own.properties
  | parent :: above => do
    if ← handsDown parent then
      let inherited ← effectivePropertiesOf parent above
      return overrideBy own.properties inherited
    else
      return own.properties

namespace Descriptor

/-- The properties of a class, those of mapped superclasses first. -/
def effectiveProperties (d : Descriptor) : Except MappingError (List PropertyDecl) :=
  effectivePropertiesOf d.own d.ancestors

/-- The column of the first identifier among declared properties. -/
def firstIdColumn (dialect : Dialect) (entity : String) :
    List PropertyDecl → Report (Option String)
  | [] => pure none
  | decl :: rest => do
    match ← MappedProperty.ofDecl decl dialect entity with
    | some p =>
      match p.isId, p.column with
      | true, some column => return some column.name
      | _, _ => firstIdColumn dialect entity rest
    | none => firstIdColumn dialect entity rest

/-- The column of the class's first identifier that has one. -/
def identifierColumn (d : Descriptor) : Report (Option String) := do
  let entity ← d.entityName
  let properties ← d.effectiveProperties
  firstIdColumn d.dialect entity properties

end Descriptor

/-- The place of a class under a persistent parent. Without a discriminator value and a join column
there is none, and the class is mapped on its own. The join column is the one that is named, or
else the parent's identifier. -/
def Placement.of? (d : Descriptor) (a : Annotations) (discriminator : Option Discriminator) :
    Report (Option Placement) := do
  match d.parent? with
  | none => return none
  | some parent =>
    if !parent.isPersistent then
      return none
    let discriminatorValue := discriminator.bind (·.value)
    if discriminatorValue.isNone && !a.has "joincolumn" then
      return none
    let name ← parent.entityName
    let table ← parent.declaredTable
    let named ← (a.nested "joincolumn").text? "name"
    let joinColumn ←
      match named with
      | some column => pure (some column)
      | none => parent.identifierColumn
    return some { parent := name, parentTable := table.getD name, joinColumn, discriminatorValue }

end OrmMapping
