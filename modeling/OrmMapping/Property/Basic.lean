import OrmMapping.TypeName

/-!
# Mapped properties

What a property is in the mapping, whichever vocabulary declared it. Everything that may be left
out is optional or has a default, so that both vocabularies lead to the same records.

* `FieldKind`, `AssociationKind`: what a property is mapped as;
* `Column`, `Generator`, `Association`: the parts of a mapping;
* `MappedProperty`: one mapped property.
-/

namespace OrmMapping

/-- Kinds of relationship between entities. -/
inductive AssociationKind where
  | oneToOne
  | manyToOne
  | oneToMany
  | manyToMany
deriving DecidableEq, Repr

namespace AssociationKind

/-- The kind's name in descriptors and documents. -/
def name : AssociationKind → String
  | .oneToOne => "one-to-one"
  | .manyToOne => "many-to-one"
  | .oneToMany => "one-to-many"
  | .manyToMany => "many-to-many"

/-- Whether the property holds any number of entities. -/
def isToMany : AssociationKind → Bool
  | .oneToMany | .manyToMany => true
  | .oneToOne | .manyToOne => false

end AssociationKind

/-- What a property is declared or mapped as. -/
inductive FieldKind where
  | id
  | column
  | version
  | timestamp
  | collection
  | association (kind : AssociationKind)
deriving DecidableEq, Repr

namespace FieldKind

/-- The kind's name in descriptors. -/
def name : FieldKind → String
  | .id => "id"
  | .column => "column"
  | .version => "version"
  | .timestamp => "timestamp"
  | .collection => "collection"
  | .association kind => kind.name

/-- All kinds. -/
def all : List FieldKind :=
  [.id, .column, .version, .timestamp, .collection, .association .oneToOne,
    .association .manyToOne, .association .oneToMany, .association .manyToMany]

/-- The kind of a name. -/
def ofName? (name : String) : Option FieldKind :=
  all.find? (·.name == name)

end FieldKind

/-- The type of a property: the short name that is written, and the annotations it comes from. -/
structure MappedType where
  name : String := TypeName.standard
  declared : Option String := none
  sqlType : Option String := none
  engineType : Option String := none
  fieldTag : Option String := none
deriving DecidableEq, Repr

/-- A table column. -/
structure Column where
  name : String
  length : Option Int := none
  precision : Option Int := none
  scale : Option Int := none
  defaultValue : Option String := none
  table : Option String := none
  sqlType : Option String := none
  uniqueKey : Option String := none
deriving DecidableEq, Repr

/-- How identifiers are made: a strategy with its parameters in order. -/
structure Generator where
  strategy : String := "increment"
  sequence : Option String := none
  selectKey : Option String := none
  params : List (String × String) := []
deriving DecidableEq, Repr

/-- The column of a map's keys or of the values of a collection. -/
structure CollectionColumn where
  column : Option String := none
  type : String := TypeName.standard
  formula : Option String := none
deriving DecidableEq, Repr

/-- A relationship to another entity. The target is kept as written; a batch adds the entity that
it names. -/
structure Association where
  kind : AssociationKind
  target : String
  targetEntity : Option String := none
  mappedBy : Option String := none
  foreignKeyColumn : Option String := none
  foreignKeyName : Option String := none
  cascade : Option String := none
  fetch : Option String := none
  lazy : Option String := none
  constrained : Bool := false
  inverse : Bool := false
  linkTable : Option String := none
  linkSchema : Option String := none
  linkCatalog : Option String := none
  inverseJoinColumn : Option String := none
  orderBy : Option String := none
  condition : Option String := none
  batchSize : Option Int := none
  missingRowIgnored : Bool := false
  collectionTag : String := "bag"
  mapKey : Option CollectionColumn := none
  element : Option CollectionColumn := none
deriving DecidableEq, Repr

/-- A name unless it is empty. -/
def nonEmpty? (name : Option String) : Option String :=
  name.filter fun s => !s.isEmpty

/-- The entity that the relationship refers to, as written while it is not resolved. -/
def Association.entityRef (a : Association) : String :=
  (nonEmpty? a.targetEntity).getD a.target

/-- One mapped property. -/
structure MappedProperty where
  name : String
  kind : FieldKind := .column
  type : MappedType := {}
  immutable : Bool := false
  unique : Bool := false
  nullable : Bool := true
  lockSensitive : Bool := true
  insertable : Bool := true
  updatable : Bool := true
  lazy : Bool := false
  formula : Option String := none
  column : Option Column := none
  generator : Option Generator := none
  association : Option Association := none
  unsavedValue : Option String := none
deriving DecidableEq, Repr

namespace MappedProperty

/-- Whether the property identifies its entity. -/
def isId (p : MappedProperty) : Bool :=
  p.kind == .id

/-- Whether the property counts the versions of its entity. -/
def isVersion (p : MappedProperty) : Bool :=
  p.kind == .version || p.kind == .timestamp

end MappedProperty

end OrmMapping
