import OrmMapping.Proofs.Annotation.Shorthand
import OrmMapping.Proofs.Property.Footprint

/-!
# Shorthand on properties

The structured vocabulary reads sets on a property: its column, its generator, its relationship and
the tables of that. Each of them can be given by a single value. A property is mapped alike, with
the same faults and warnings, when some of these values are spelled out. The flat vocabulary reads
no sets, so nothing is shorthand there.

* `PropertyDecl.SpelledOut`: declarations that are the same but for shorthand;
* `ofDecl_spelledOut`: mapping.
-/

namespace OrmMapping

/-- Declarations of one property that are the same but for shorthand of a vocabulary. -/
structure PropertyDecl.SpelledOut (dialect : Dialect) (decl decl' : PropertyDecl) : Prop where
  name : decl'.name = decl.name
  annotations : OrmMapping.SpelledOut dialect.propertyShorthands decl.annotations decl'.annotations

/-- Nothing need be spelled out. -/
theorem PropertyDecl.SpelledOut.refl (dialect : Dialect) (decl : PropertyDecl) :
    decl.SpelledOut dialect decl :=
  ⟨rfl, .refl _ _⟩

/-- No vocabulary reads a value and a set under one key. -/
theorem propertyKeys_areApart (dialect : Dialect) : dialect.propertyKeys.areApart = true := by
  cases dialect <;> decide

variable {dialect : Dialect} {decl decl' : PropertyDecl}

/-- Declarations that are the same but for shorthand are read alike. -/
theorem PropertyDecl.SpelledOut.alike (h : decl.SpelledOut dialect decl') :
    decl.Alike dialect decl' :=
  ⟨h.name, SpelledOut.alikeUnder h.annotations (propertyKeys_areApart dialect)⟩

/-- A property is mapped alike, with the same faults and warnings, whether or not its shorthand is
spelled out. -/
theorem ofDecl_spelledOut (h : decl.SpelledOut dialect decl') (entity : String) :
    MappedProperty.ofDecl decl' dialect entity = MappedProperty.ofDecl decl dialect entity :=
  ofDecl_alike h.alike entity

end OrmMapping
