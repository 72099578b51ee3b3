import OrmMapping.Annotation.Basic
import OrmMapping.Property.Basic

/-!
# Property facts

What the annotations of a property say, before any rule gives it a meaning. Both vocabularies are
read into the same records; they differ in the set that holds a fact and in the key it stands
under.

* `PropertyFacts`: all facts of one property;
* `ColumnFacts.read`, `RelationFacts.read`, `CollectionFacts.read`: the groups that both
  vocabularies read from one set.
-/

namespace OrmMapping

/-- Facts on the column. -/
structure ColumnFacts where
  name : Option String := none
  length : Option Int := none
  precision : Option Int := none
  scale : Option Int := none
  defaultValue : Option String := none
  table : Option String := none
  uniqueKey : Option String := none
deriving DecidableEq, Repr

/-- Facts on the making of identifiers. -/
structure GeneratorFacts where
  strategy : Option String := none
  sequence : Option String := none
  selectKey : Option String := none
  params : List (String × String) := []
deriving DecidableEq, Repr

/-- Facts on a relationship of any kind. -/
structure RelationFacts where
  mappedBy : Option String := none
  cascade : Option String := none
  fetch : Option String := none
  constrained : Bool := false
  inverse : Bool := false
  orderBy : Option String := none
  condition : Option String := none
  batchSize : Option Int := none
  missingRowIgnored : Bool := false
deriving DecidableEq, Repr

/-- Facts on the keys and values of a collection. -/
structure CollectionFacts where
  keyColumn : Option String := none
  keyType : Option String := none
  keyFormula : Option String := none
  elementColumn : Option String := none
  elementType : Option String := none
  elementFormula : Option String := none
deriving DecidableEq, Repr

/-- Facts on the table between two entities. -/
structure LinkFacts where
  table : Option String := none
  schema : Option String := none
  catalog : Option String := none
  inverseJoinColumn : Option String := none
deriving DecidableEq, Repr

/-- Facts on the target of a relationship and how it is reached. -/
structure TargetFacts where
  entity : Option String := none
  lazy : Option String := none
  foreignKeyColumn : Option String := none
  foreignKeyName : Option String := none
deriving DecidableEq, Repr

/-- Everything the annotations of a property say. -/
structure PropertyFacts where
  name : String
  kind : FieldKind := .column
  fieldTag : Option String := none
  ormType : Option String := none
  sqlType : Option String := none
  declaredType : Option String := none
  dataType : Option String := none
  formula : Option String := none
  column : ColumnFacts := {}
  unique : Bool := false
  notNull : Bool := false
  insertable : Option Bool := none
  updatable : Option Bool := none
  immutable : Bool := false
  lazy : Bool := false
  lockSensitive : Bool := true
  unsavedValue : Option String := none
  generator : GeneratorFacts := {}
  target : TargetFacts := {}
  relation : RelationFacts := {}
  collection : CollectionFacts := {}
  link : LinkFacts := {}
deriving DecidableEq, Repr

/-- The text under the first of several keys that has one. Later keys are not looked at. -/
def Annotations.firstText? (a : Annotations) : List String → Except MappingError (Option String)
  | [] => .ok none
  | key :: keys => do
    match ← a.text? key with
    | some text => return some text
    | none => a.firstText? keys

/-- The database type that is declared; the bare key stands for `varchar`. -/
def Annotations.sqlType? (a : Annotations) : Except MappingError (Option String) :=
  if a.has "sqltype" then (a.text? "sqltype").map fun text => some (text.getD "varchar")
  else .ok none

/-- The facts on the column. The vocabularies disagree on the keys of the name and of the default
value only. -/
def ColumnFacts.read (a : Annotations) (nameKey defaultKey : String) :
    Except MappingError ColumnFacts := do
  let name ← a.text? nameKey
  let length ← a.integer? "length"
  let precision ← a.integer? "precision"
  let scale ← a.integer? "scale"
  let defaultValue ← a.text? defaultKey
  let table ← a.text? "table"
  let uniqueKey ← a.text? "uniquekey"
  return { name, length, precision, scale, defaultValue, table, uniqueKey }

/-- The facts on a relationship of any kind. -/
def RelationFacts.read (a : Annotations) : Except MappingError RelationFacts := do
  let mappedBy ← a.text? "mappedby"
  let cascade ← a.text? "cascade"
  let fetch ← a.text? "fetch"
  let constrained ← a.flag "constrained"
  let inverse ← a.flag "inverse"
  let orderBy ← a.text? "orderby"
  let condition ← a.text? "where"
  let batchSize ← a.integer? "batchsize"
  let missingRowIgnored ← a.flag "missingrowignored"
  return { mappedBy, cascade, fetch, constrained, inverse, orderBy, condition, batchSize,
           missingRowIgnored }

/-- The facts on the keys and values of a collection. -/
def CollectionFacts.read (a : Annotations) : Except MappingError CollectionFacts := do
  let keyColumn ← a.text? "structkeycolumn"
  let keyType ← a.text? "structkeytype"
  let keyFormula ← a.text? "structkeyformula"
  let elementColumn ← a.text? "elementcolumn"
  let elementType ← a.text? "elementtype"
  let elementFormula ← a.text? "elementformula"
  return { keyColumn, keyType, keyFormula, elementColumn, elementType, elementFormula }

/-- The facts on the table between two entities, under the keys of a vocabulary. -/
def LinkFacts.read (a : Annotations) (tableKey schemaKey catalogKey : String) :
    Except MappingError LinkFacts := do
  let table ← a.text? tableKey
  let schema ← a.text? schemaKey
  let catalog ← a.text? catalogKey
  let inverseJoinColumn ← a.text? "inversejoincolumn"
  return { table, schema, catalog, inverseJoinColumn }

end OrmMapping
