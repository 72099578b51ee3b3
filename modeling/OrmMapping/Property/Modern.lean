import OrmMapping.Property.Facts

/-!
# Modern property annotations

The structured vocabulary: facts on the column, the generator, the relationship and its tables
stand in nested sets, and the key of the relationship, or one of the marks `id` and `version`, says
what the property is.

* `PropertyFacts.readModern`: the facts, none when the property is transient.
-/

namespace OrmMapping

/-- The keys of relationships, in the order in which they are looked for. -/
def relationKeys : List (String × AssociationKind) :=
  [("onetoone", .oneToOne), ("manytoone", .manyToOne), ("onetomany", .oneToMany),
    ("manytomany", .manyToMany)]

/-- The first relationship key that is present. -/
def modernRelation? (a : Annotations) : Option (String × AssociationKind) :=
  relationKeys.find? fun (key, _) => a.has key

/-- What the property is: the marks come before the relationship. -/
def modernKind (a : Annotations) : Except MappingError FieldKind := do
  if ← a.flag "id" then
    return .id
  if ← a.flag "version" then
    return .version
  match modernRelation? a with
  | some (_, kind) => return .association kind
  | none => return .column

/-- The database type, declared on the property or on its column. -/
def modernSqlType? (a column : Annotations) : Except MappingError (Option String) := do
  match ← a.sqlType? with
  | some text => return some text
  | none => column.sqlType?

/-- Set on the column or on the property. -/
def modernUnique (a column : Annotations) : Except MappingError Bool := do
  if ← column.flag "unique" then return true else a.flag "unique"

/-- Required on the property, or not nullable on the column. -/
def modernNotNull (a column : Annotations) : Except MappingError Bool := do
  if ← a.flag "notnull" then return true
  else return !(← column.flag "nullable" true)

/-- The facts on the making of identifiers. -/
def modernGenerator (a : Annotations) : Report GeneratorFacts := do
  let generated := a.nested "generatedvalue" "strategy"
  let strategy ← generated.text? "strategy"
  let sequence ← generated.text? "sequence"
  let selectKey ← generated.text? "selectkey"
  let params ← generated.parameters "params"
  return { strategy, sequence, selectKey, params }

/-- The target of a relationship. -/
def modernTarget (relation joinColumn : Annotations) : Except MappingError TargetFacts := do
  let entity ← relation.firstText? ["targetentity", "target", "entity"]
  let lazy ← relation.text? "lazy"
  let foreignKeyColumn ← joinColumn.text? "name"
  let foreignKeyName ← joinColumn.text? "foreignkey"
  return { entity, lazy, foreignKeyColumn, foreignKeyName }

/-- The facts that a property of any kind may have. -/
def modernCommon (name : String) (kind : FieldKind) (a : Annotations) :
    Except MappingError PropertyFacts := do
  let columnSet := a.nested "column"
  let ormType ← a.text? "ormtype"
  let sqlType ← modernSqlType? a columnSet
  let declaredType ← a.text? "type"
  let formula ← a.text? "formula"
  let column ← ColumnFacts.read columnSet "name" "default"
  let unique ← modernUnique a columnSet
  let notNull ← modernNotNull a columnSet
  let insertable ← columnSet.optionalFlag "insertable"
  let updatable ← columnSet.optionalFlag "updatable"
  let immutable ← a.flag "immutable"
  let lazy ← a.flag "lazy"
  let lockSensitive ← a.flag "optimisticlock" true
  let unsavedValue ← a.text? "unsavedvalue"
  return { name, kind, ormType, sqlType, declaredType, formula, column, unique, notNull, insertable,
           updatable, immutable, lazy, lockSensitive, unsavedValue }

/-- Adds the facts that only identifiers have. -/
def modernWithGenerator (facts : PropertyFacts) (a : Annotations) : Report PropertyFacts := do
  if facts.kind == .id then
    let generator ← modernGenerator a
    return { facts with generator }
  else
    return facts

/-- Adds the facts of the relationship. One that is not optional makes the property required. -/
def modernWithRelation (facts : PropertyFacts) (a : Annotations) :
    Except MappingError PropertyFacts :=
  match facts.kind, modernRelation? a with
  | .association _, some (key, _) => do
    let relationSet := a.nested key "targetentity"
    let target ← modernTarget relationSet (a.nested "joincolumn")
    let notNull ←
      if facts.notNull then pure true else (relationSet.flag "optional" true).map (!·)
    let relation ← RelationFacts.read relationSet
    let collection ← CollectionFacts.read relationSet
    let link ← LinkFacts.read (a.nested "jointable") "name" "schema" "catalog"
    return { facts with notNull, target, relation, collection, link }
  | _, _ => .ok facts

/-- The facts of a property that is not transient. -/
def PropertyFacts.readModern (name : String) (a : Annotations) :
    Report (Option PropertyFacts) := do
  let transient ← a.flag "transient"
  if transient then
    return none
  let kind ← modernKind a
  let common ← modernCommon name kind a
  let identified ← modernWithGenerator common a
  let facts ← modernWithRelation identified a
  return some facts

end OrmMapping
