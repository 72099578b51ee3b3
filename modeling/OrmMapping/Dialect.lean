import OrmMapping.Annotation.Coercion
import OrmMapping.Keyed

/-!
# Dialects and the entity marker

Descriptors come in two vocabularies. The classic one is flat and marks its classes with the key
`persistent`; the modern one is structured and marks them with `entity`. A class that carries both
marks is classic.

* `Dialect.classify`: the vocabulary of a class;
* `isEntity`: whether a class is persistent at all.
-/

namespace OrmMapping

/-- The vocabulary a descriptor is written in. -/
inductive Dialect where
  | classic
  | modern
deriving DecidableEq, Repr

namespace Dialect

/-- The class-level key that marks the classic vocabulary. -/
def classicMarker : String := "persistent"

/-- The class-level key that marks the modern vocabulary. -/
def modernMarker : String := "entity"

/-- The vocabulary of a class with these annotations. -/
def classify (entries : Keyed Value) : Dialect :=
  if entries.has classicMarker then .classic else .modern

/-- The dialect's name. -/
def name : Dialect → String
  | .classic => "classic"
  | .modern => "modern"

/-- The dialect of a name. -/
def ofName? (name : String) : Option Dialect :=
  if name == "classic" then some .classic
  else if name == "modern" then some .modern
  else none

end Dialect

/-- Whether a class with these annotations is persistent. The modern mark counts by being there;
the classic one must be true, which it is without a value, and counts as false when its value is no
truth value. -/
def isEntity (entries : Keyed Value) : Bool :=
  if entries.has Dialect.modernMarker then true
  else
    match entries.get? Dialect.classicMarker with
    | none => false
    | some value => value.isBlank || value.trimmed.toBool?.getD false

end OrmMapping
