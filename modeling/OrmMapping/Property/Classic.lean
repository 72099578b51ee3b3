import OrmMapping.Property.Facts

/-!
# Classic property annotations

The flat vocabulary: every fact stands under a key of its own in the one annotation set of the
property, and `fieldtype` says what the property is.

* `PropertyFacts.readClassic`: the facts, none when the property is not persisted.
-/

namespace OrmMapping

/-- The kind that `fieldtype` declares, whatever its case; a column when it is absent. -/
def classicKind (a : Annotations) : Except MappingError FieldKind := do
  let declared ← a.text? "fieldtype"
  let name := Text.lower (declared.getD FieldKind.column.name)
  match FieldKind.ofName? name with
  | some kind => return kind
  | none => throw (a.malformed (.unknownFieldType name))

/-- The parameters that have keys of their own, in the order they are written in. -/
def classicOwnParams (a : Annotations) : Except MappingError (List (String × String)) := do
  let property ← a.text? "property"
  let generated ← a.text? "generated"
  return (property.toList.map ("property", ·)) ++ (generated.toList.map ("generated", ·))

/-- The facts on the making of identifiers. -/
def classicGenerator (a : Annotations) : Report GeneratorFacts := do
  let strategy ← a.text? "generator"
  let sequence ← a.text? "sequence"
  let selectKey ← a.text? "selectkey"
  let own ← classicOwnParams a
  let params ← a.parameters "params"
  return { strategy, sequence, selectKey, params := own ++ params }

/-- The target of a relationship. -/
def classicTarget (a : Annotations) : Except MappingError TargetFacts := do
  let entity ← a.firstText? ["cfc", "class"]
  let lazy ← a.text? "lazy"
  let foreignKeyColumn ← a.text? "fkcolumn"
  let foreignKeyName ← a.firstText? ["foreignkeyname", "foreignkey"]
  return { entity, lazy, foreignKeyColumn, foreignKeyName }

/-- The facts that a property of any kind may have. -/
def classicCommon (name : String) (kind : FieldKind) (a : Annotations) :
    Except MappingError PropertyFacts := do
  let fieldTag ← a.text? "fieldtype"
  let ormType ← a.text? "ormtype"
  let sqlType ← a.sqlType?
  let declaredType ← a.text? "type"
  let formula ← a.text? "formula"
  let column ← ColumnFacts.read a "column" "dbdefault"
  let unique ← a.flag "unique"
  let notNull ← a.flag "notnull"
  let insertable ← a.optionalFlag "insert"
  let updatable ← a.optionalFlag "update"
  let immutable ← a.flag "readonly"
  let lockSensitive ← a.flag "optimisticlock" true
  let unsavedValue ← a.text? "unsavedvalue"
  let dataType ← if kind == .version then a.text? "datatype" else pure none
  return { name, kind, fieldTag, ormType, sqlType, declaredType, dataType, formula, column, unique,
           notNull, insertable, updatable, immutable, lockSensitive, unsavedValue }

/-- Adds the facts that only identifiers have. -/
def classicWithGenerator (facts : PropertyFacts) (a : Annotations) : Report PropertyFacts := do
  if facts.kind == .id then
    let generator ← classicGenerator a
    return { facts with generator }
  else
    return facts

/-- Adds the facts of a relationship; for any other property `lazy` is a flag. -/
def classicWithRelation (facts : PropertyFacts) (a : Annotations) :
    Except MappingError PropertyFacts :=
  match facts.kind with
  | .association _ => do
    if a.has "linktable" && !a.has "fkcolumn" then
      throw (a.malformed .linkTableWithoutForeignKey)
    let target ← classicTarget a
    let relation ← RelationFacts.read a
    let collection ← CollectionFacts.read a
    let link ← LinkFacts.read a "linktable" "linkschema" "linkcatalog"
    return { facts with target, relation, collection, link }
  | _ => do
    let lazy ← a.flag "lazy"
    return { facts with lazy }

/-- The facts of a property that is persisted: one not marked otherwise. Bare collections are not
supported and passed over with a warning. The flag `id` makes an identifier of any property. -/
def PropertyFacts.readClassic (name : String) (a : Annotations) :
    Report (Option PropertyFacts) := do
  let persistent ← a.flag "persistent" true
  if !persistent then
    return none
  let declared ← classicKind a
  if declared == .collection then
    Report.warn (.unsupportedCollection a.entity name)
    return none
  let isId ← a.flag "id"
  let common ← classicCommon name (if isId then .id else declared) a
  let identified ← classicWithGenerator common a
  let facts ← classicWithRelation identified a
  return some facts

end OrmMapping
