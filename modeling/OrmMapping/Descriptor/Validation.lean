import OrmMapping.Annotation.Folding
import OrmMapping.Descriptor.Basic
import OrmMapping.Violation

/-!
# Reading descriptors

A descriptor comes as a value: a map with a name and possibly annotations, properties and the
descriptor it extends. Reading checks the shape, finds all violations in the order of those fields,
and brings the keys of all annotations to lower case. Fields of other names are passed over.

* `Descriptor.ofValue`: the descriptor a value stands for;
* `PropertyDecl.ofValue`: the same for one property.
-/

namespace OrmMapping

/-- The name field of a class or property. -/
def nameField (place : List String) (entries : Keyed Value) : Checked String :=
  match entries.get? "name" with
  | none => .refuse (place ++ ["name"]) .present
  | some (.str s) => .ok s
  | some _ => .refuse (place ++ ["name"]) .string

/-- The annotations field of a class or property, its keys in lower case. -/
def annotationsField (place : List String) (entries : Keyed Value) : Checked (Keyed Value) :=
  match entries.get? "annotations" with
  | none => .ok []
  | some .null => .ok []
  | some (.map annotations) => .ok (foldEntries annotations)
  | some _ => .refuse (place ++ ["annotations"]) .object

/-- The property that a value stands for. -/
def PropertyDecl.ofValue (place : List String) : Value → Checked PropertyDecl
  | .map entries =>
    (Checked.both (nameField place entries) (annotationsField place entries)).map
      fun (name, annotations) => ⟨name, annotations⟩
  | _ => .refuse place .object

/-- The properties field of a class. -/
def propertiesField (place : List String) (entries : Keyed Value) : Checked (List PropertyDecl) :=
  match entries.get? "properties" with
  | none => .ok []
  | some (.list items) => Checked.indexed (place ++ ["properties"]) PropertyDecl.ofValue items
  | some _ => .refuse (place ++ ["properties"]) .array

/-- The fields of a class but the class it extends. -/
def ClassDecl.ofEntries (place : List String) (entries : Keyed Value) : Checked ClassDecl :=
  (Checked.both (nameField place entries)
    (Checked.both (annotationsField place entries) (propertiesField place entries))).map
      fun (name, annotations, properties) => ⟨name, annotations, properties⟩

namespace Descriptor

mutual

/-- The descriptor that a value at `place` stands for. -/
def ofValueAt (place : List String) : Value → Checked Descriptor
  | .map entries =>
    (Checked.both (ClassDecl.ofEntries place entries)
      (parentOf (place ++ ["extends"]) entries)).map fun (own, parent) => extending own parent
  | _ => .refuse place .object

/-- The descriptor under the key `extends`; null stands for none. -/
def parentOf (place : List String) : List (String × Value) → Checked (Option Descriptor)
  | [] => .ok none
  | (key, value) :: rest =>
    if key == "extends" then
      if value == .null then .ok none else (ofValueAt place value).map some
    else
      parentOf place rest

end

/-- The descriptor that a value stands for. -/
def ofValue (value : Value) : Checked Descriptor :=
  ofValueAt [] value

end Descriptor

end OrmMapping
