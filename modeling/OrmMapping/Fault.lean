import OrmMapping.Json.Value

/-!
# Faults and notices

What can be wrong with a descriptor, and what is worth a warning. Each is a cause; its wording
stands in one function.

* `Fault`: what is wrong with annotations or with a class as a whole;
* `DocumentFault`: why a mapping document cannot be written;
* `MappingError`: a fault, with the entity that it befalls;
* `Notice`: a warning; the work goes on.
-/

namespace OrmMapping

/-- What is wrong with annotations or with a class as a whole. -/
inductive Fault where
  | notScalar (key : String)
  | notBoolean (key : String) (value : Value)
  | notInteger (key : String) (value : Value)
  | unsupportedDialect (name : String)
  | unknownFieldType (name : String)
  | linkTableWithoutForeignKey
  | selectWithoutKey
  | associationWithoutTarget
  | mapWithoutKeyColumn
  | cacheWithoutStrategy
  | joinColumnRequired
  | duplicateProperty (name : String)
  | noIdentifier
deriving DecidableEq, Repr

/-- The fault in words. -/
def Fault.message : Fault → String
  | .notScalar key => s!"annotation '{key}' must be a scalar, got a map"
  | .notBoolean key value => s!"annotation '{key}' is not a boolean: " ++ value.shown
  | .notInteger key value => s!"annotation '{key}' is not an integer: " ++ value.shown
  | .unsupportedDialect name => "unsupported dialect " ++ Text.quoted name
  | .unknownFieldType name => s!"unknown fieldtype '{name}'"
  | .linkTableWithoutForeignKey => "'linktable' requires an 'fkcolumn' annotation"
  | .selectWithoutKey => "generator 'select' requires a 'selectkey' annotation"
  | .associationWithoutTarget => "association has no target entity"
  | .mapWithoutKeyColumn => "struct collection requires a 'structkeycolumn' annotation"
  | .cacheWithoutStrategy => "cache annotation requires a strategy"
  | .joinColumnRequired => "subclass with its own table requires a 'joincolumn' annotation"
  | .duplicateProperty name => s!"duplicate property '{name}'"
  | .noIdentifier => "has no identifier property"

/-- Why a mapping document cannot be written. -/
inductive DocumentFault where
  | forbiddenText
  | emptyTag
  | unclosedNamespace
  | invalidTag (name : String)
  | invalidNamespace (reference : String)
  | missingIdentifier
deriving DecidableEq, Repr

/-- The fault in words. -/
def DocumentFault.message : DocumentFault → String
  | .forbiddenText =>
    "All strings must be XML compatible: Unicode or ASCII, no NULL bytes or control characters"
  | .emptyTag => "Empty tag name"
  | .unclosedNamespace => "Invalid tag name"
  | .invalidTag name => "Invalid tag name " ++ Text.quoted name
  | .invalidNamespace reference => "Invalid namespace URI " ++ Text.quoted reference
  | .missingIdentifier => "tuple index out of range"

/-- Why an entity cannot be mapped. -/
inductive MappingError where
  /-- The annotations of `entity` are at fault, those of its property or nested map `owner` if that
  is given. -/
  | malformed (entity : String) (owner : Option String) (fault : Fault)
  /-- A property refers to no entity of the batch, or the parent does if no property is given. -/
  | unknownEntity (entity : String) (property : Option String) (target : String)
  | duplicateEntity (entity first second : String)
  | unbuildable (entity : String) (fault : DocumentFault)
deriving DecidableEq, Repr

namespace MappingError

/-- The fault with the property it befalls; a nameless owner is not mentioned. -/
def faultDetail (owner : Option String) (fault : Fault) : String :=
  match owner with
  | some name => if name.isEmpty then fault.message else s!"property '{name}': " ++ fault.message
  | none => fault.message

/-- The error in words. -/
def message : MappingError → String
  | .malformed entity owner fault => s!"Entity '{entity}': " ++ faultDetail owner fault
  | .unknownEntity entity none target =>
    s!"Entity '{entity}': extends unknown entity '{target}'"
  | .unknownEntity entity (some property) target =>
    s!"Entity '{entity}': property '{property}' references unknown entity '{target}'"
  | .duplicateEntity entity first second =>
    s!"Duplicate entity name '{entity}': {first} and {second}"
  | .unbuildable entity fault =>
    s!"Cannot build mapping document for '{entity}': " ++ fault.message

end MappingError

/-- What is worth a warning. -/
inductive Notice where
  | unreadableParameters (entity text : String)
  | unsupportedCollection (entity property : String)
  | nonNumericVersion (entity property type : String)
  | collectionTypeMissing (entity property key type : String)
  | extraVersion (entity property : String)
deriving DecidableEq, Repr

/-- The warning in words. -/
def Notice.message : Notice → String
  | .unreadableParameters entity text =>
    s!"Entity '{entity}': ignoring unparseable generator params " ++ Text.quoted text
  | .unsupportedCollection entity property =>
    s!"Entity '{entity}': property '{property}' has fieldtype=collection, " ++
      "which is not supported; skipping"
  | .nonNumericVersion entity property type =>
    s!"Entity '{entity}': version property '{property}' has non-numeric type '{type}'"
  | .collectionTypeMissing entity property key type =>
    s!"Entity '{entity}': collection '{property}' has no '{key}' annotation; using {type}"
  | .extraVersion entity property =>
    s!"Entity '{entity}': ignoring additional version property '{property}'"

end OrmMapping
