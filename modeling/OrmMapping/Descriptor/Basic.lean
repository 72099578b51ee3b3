import OrmMapping.Json.Value

/-!
# Descriptors

A descriptor is the raw description of a class: its name, its annotations and its properties in
order, together with the classes it extends, nearest first. Nothing is interpreted yet.

* `PropertyDecl`, `ClassDecl`: a property and a class as declared;
* `Descriptor`: a class with its ancestors.
-/

namespace OrmMapping

/-- A property as declared. -/
structure PropertyDecl where
  name : String
  annotations : Keyed Value := []
deriving DecidableEq, Repr

/-- A class as declared, without the classes it extends. -/
structure ClassDecl where
  name : String
  annotations : Keyed Value := []
  properties : List PropertyDecl := []
deriving DecidableEq, Repr

/-- The bare name of a class: the last segment of its dotted name. -/
def ClassDecl.className (c : ClassDecl) : String :=
  Text.lastSegment c.name

/-- A class together with the classes it extends, nearest first. -/
structure Descriptor where
  own : ClassDecl
  ancestors : List ClassDecl := []
deriving DecidableEq, Repr

namespace Descriptor

/-- The dotted name of the class. -/
def name (d : Descriptor) : String := d.own.name

/-- The bare name of the class. -/
def className (d : Descriptor) : String := d.own.className

/-- The class-level annotations. -/
def annotations (d : Descriptor) : Keyed Value := d.own.annotations

/-- The class that this one extends, with its own ancestors. -/
def parent? (d : Descriptor) : Option Descriptor :=
  match d.ancestors with
  | [] => none
  | p :: rest => some ⟨p, rest⟩

/-- The class below a parent. -/
def extending (own : ClassDecl) : Option Descriptor → Descriptor
  | none => ⟨own, []⟩
  | some p => ⟨own, p.own :: p.ancestors⟩

end Descriptor

end OrmMapping
