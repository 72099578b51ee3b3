import OrmMapping.Descriptor.Basic
import OrmMapping.Dialect
import OrmMapping.Property.Classic
import OrmMapping.Property.Modern

/-!
# From facts to mapped properties

All rules that give the facts of a property a meaning stand here, once for both vocabularies: which
declared type counts, what a missing generator or type is, and how a relationship with a foreign
key or a link table changes its kind.

* `MappedProperty.ofFacts`: the mapping of a property;
* `MappedProperty.ofDecl`: the mapping of a declared property, none when it is not persisted.
-/

namespace OrmMapping

/-! ## Identifiers and types -/

/-- The generator of an identifier. The strategy `select` needs to know its key. -/
def Generator.ofFacts (facts : GeneratorFacts) (a : Annotations) :
    Except MappingError Generator :=
  let strategy := Text.lower (facts.strategy.getD "increment")
  if strategy == "select" && facts.selectKey.isNone then
    .error (a.malformed .selectWithoutKey)
  else
    .ok { strategy, sequence := facts.sequence, selectKey := facts.selectKey,
          params := facts.params }

/-- Generators whose identifiers are numbers when no type is declared. -/
def numericGenerators : List String := ["increment", "identity", "native"]

/-- The declared type that counts: the engine's own name before the database type, the general type
and the data type of a version. -/
def PropertyFacts.explicitType? (facts : PropertyFacts) : Option String :=
  facts.ormType.or (facts.sqlType.or (facts.declaredType.or facts.dataType))

/-- The short type name of a property with this generator. -/
def PropertyFacts.typeName (facts : PropertyFacts) (generator : Option Generator) : String :=
  match facts.explicitType? with
  | some declared => TypeName.canonical declared
  | none =>
    if generator.any fun g => numericGenerators.contains g.strategy then "integer"
    else if facts.kind == .timestamp then "timestamp"
    else TypeName.standard

/-- The type of a property, with a warning for a version that does not count upwards. -/
def MappedType.ofFacts (facts : PropertyFacts) (generator : Option Generator) (a : Annotations) :
    Report MappedType := do
  let name := facts.typeName generator
  if facts.kind == .version && !TypeName.isIntegral name then
    Report.warn (.nonNumericVersion a.entity facts.name name)
  return { name, declared := facts.declaredType, sqlType := facts.sqlType,
           engineType := facts.ormType, fieldTag := facts.fieldTag }

/-! ## Relationships -/

/-- The kind of a relationship: with a foreign key of its own a one-to-one is a many-to-one, and
with a link table a one-to-many is a many-to-many. -/
def PropertyFacts.associationKind (facts : PropertyFacts) (declared : AssociationKind) :
    AssociationKind :=
  match declared with
  | .oneToOne => if facts.target.foreignKeyColumn.isSome then .manyToOne else .oneToOne
  | .oneToMany => if facts.link.table.isSome then .manyToMany else .oneToMany
  | kind => kind

/-- How a relationship is loaded. A single entity that is loaded late stands as a proxy. -/
def lazyMode (kind : AssociationKind) (declared : Option String) : Option String :=
  declared.map fun text =>
    let mode := Text.lower text
    if mode == "true" && !kind.isToMany then "proxy" else mode

/-- Whether the declared type of a collection makes a map of it. -/
def PropertyFacts.isMap (facts : PropertyFacts) : Bool :=
  ["struct", "map"].contains (Text.lower (facts.declaredType.getD ""))

/-- The type of a collection's keys or values, with a warning when none is declared. -/
def collectionType (facts : PropertyFacts) (a : Annotations) (key : String)
    (declared : Option String) : Report String :=
  match declared with
  | some type => pure type
  | none => do
    Report.warn (.collectionTypeMissing a.entity facts.name key TypeName.standard)
    return TypeName.standard

/-- The column of a map's keys, for a collection that is a map. -/
def mapKeyColumn (facts : PropertyFacts) (a : Annotations) : Report (Option CollectionColumn) := do
  if !facts.isMap then
    return none
  if facts.collection.keyColumn.isNone then
    Report.fail (a.malformed .mapWithoutKeyColumn)
  let type ← collectionType facts a "structkeytype" facts.collection.keyType
  return some { column := facts.collection.keyColumn, type, formula := facts.collection.keyFormula }

/-- The column of a collection's values, when one is declared. -/
def elementColumn (facts : PropertyFacts) (a : Annotations) :
    Report (Option CollectionColumn) := do
  if facts.collection.elementColumn.isNone then
    return none
  let type ← collectionType facts a "elementtype" facts.collection.elementType
  return some { column := facts.collection.elementColumn, type,
                formula := facts.collection.elementFormula }

/-- The relationship that the facts describe. What only collections have is dropped from a
relationship to a single entity. -/
def Association.ofFacts (facts : PropertyFacts) (declared : AssociationKind) (a : Annotations) :
    Report Association := do
  let kind := facts.associationKind declared
  match facts.target.entity with
  | none => Report.fail (a.malformed .associationWithoutTarget)
  | some target => do
    let mapKey ← if kind.isToMany then mapKeyColumn facts a else pure none
    let element ← if kind.isToMany then elementColumn facts a else pure none
    let toMany (text : Option String) : Option String := if kind.isToMany then text else none
    return {
      kind, target, mapKey, element
      mappedBy := facts.relation.mappedBy
      foreignKeyColumn := facts.target.foreignKeyColumn
      foreignKeyName := facts.target.foreignKeyName
      cascade := facts.relation.cascade
      fetch := facts.relation.fetch
      lazy := lazyMode kind facts.target.lazy
      constrained := facts.relation.constrained
      inverse := facts.relation.inverse
      linkTable := toMany facts.link.table
      linkSchema := toMany facts.link.schema
      linkCatalog := toMany facts.link.catalog
      inverseJoinColumn := facts.link.inverseJoinColumn
      orderBy := facts.relation.orderBy
      condition := facts.relation.condition
      batchSize := facts.relation.batchSize
      missingRowIgnored := facts.relation.missingRowIgnored
      collectionTag := if mapKey.isSome then "map" else "bag" }

/-! ## Properties -/

/-- The column of a property of this kind. A relationship to one entity has the column of its
foreign key, if that has a name; all other relationships have none. -/
def Column.ofFacts? (facts : PropertyFacts) (kind : FieldKind) : Option Column :=
  match kind with
  | .association .manyToOne =>
    (facts.target.foreignKeyColumn.or facts.column.name).map fun name => { name }
  | .association _ => none
  | _ =>
    some {
      name := facts.column.name.getD facts.name
      length := facts.column.length
      precision := facts.column.precision
      scale := facts.column.scale
      defaultValue := facts.column.defaultValue
      table := facts.column.table
      sqlType := facts.sqlType
      uniqueKey := facts.column.uniqueKey }

/-- Whether a column is written on insertion or update: as declared, else unless the property is
immutable. -/
def writable (immutable : Bool) (declared : Option Bool) : Bool :=
  declared.getD (!immutable)

/-- The generator of a property: identifiers have one. -/
def PropertyFacts.generator? (facts : PropertyFacts) (a : Annotations) :
    Except MappingError (Option Generator) :=
  if facts.kind == .id then (Generator.ofFacts facts.generator a).map some else .ok none

/-- The relationship of a property, for those declared as one. -/
def PropertyFacts.association? (facts : PropertyFacts) (a : Annotations) :
    Report (Option Association) :=
  match facts.kind with
  | .association declared => do return some (← Association.ofFacts facts declared a)
  | _ => pure none

/-- The mapping of a property. A one-to-one that became a many-to-one stays unique, and a property
with a formula has no column. -/
def MappedProperty.ofFacts (facts : PropertyFacts) (a : Annotations) :
    Report MappedProperty := do
  let generator ← facts.generator? a
  let association ← facts.association? a
  let kind := (association.map fun r => FieldKind.association r.kind).getD facts.kind
  let type ← MappedType.ofFacts facts generator a
  return {
    name := facts.name
    kind, type, generator, association
    immutable := facts.immutable
    unique := facts.unique || (kind != facts.kind && kind == .association .manyToOne)
    nullable := !facts.notNull
    lockSensitive := facts.lockSensitive
    insertable := writable facts.immutable facts.insertable
    updatable := writable facts.immutable facts.updatable
    lazy := facts.lazy
    formula := facts.formula.map fun text => "(" ++ text ++ ")"
    column := if facts.formula.isNone then Column.ofFacts? facts kind else none
    unsavedValue := facts.unsavedValue }

/-- The facts of a declared property, read in the vocabulary of its class. -/
def PropertyFacts.read (name : String) (dialect : Dialect) (a : Annotations) :
    Report (Option PropertyFacts) :=
  match dialect with
  | .classic => PropertyFacts.readClassic name a
  | .modern => PropertyFacts.readModern name a

/-- The annotation set of a declared property. -/
def PropertyDecl.annotationSet (decl : PropertyDecl) (entity : String) : Annotations :=
  ⟨decl.annotations, entity, some decl.name⟩

/-- The mapping of a declared property, none when it is not persisted. -/
def MappedProperty.ofDecl (decl : PropertyDecl) (dialect : Dialect) (entity : String) :
    Report (Option MappedProperty) := do
  let a := decl.annotationSet entity
  match ← PropertyFacts.read decl.name dialect a with
  | none => return none
  | some facts => return some (← MappedProperty.ofFacts facts a)

/-- Maps a property in the vocabulary of this name; a name that is none is an error. -/
def MappedProperty.ofDeclNamed (decl : PropertyDecl) (dialect entity : String) :
    Report (Option MappedProperty) :=
  match Dialect.ofName? dialect with
  | some d => MappedProperty.ofDecl decl d entity
  | none => Report.fail ((decl.annotationSet entity).malformed (.unsupportedDialect dialect))

end OrmMapping
