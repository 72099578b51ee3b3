import OrmMapping.Batch.Sources
import OrmMapping.Descriptor.Basic
import OrmMapping.Entity.Basic
import OrmMapping.Fault

/-!
# The roster of a batch

The entities of a batch and the names by which descriptors may refer to them. An entity goes by its
entity name, by the dotted name of its source or the last segment of that, and by the name in its
descriptor, all whatever their case and all within its datasource. Where two entities share a name
the one that came first has it; entity names themselves must differ.

* `Roster.register`: adds an entity;
* `Roster.lookup`: the entity that a reference means;
* `Roster.resolve`: an entity with its references replaced by entity names.
-/

namespace OrmMapping

/-- An entity of a batch before it is mapped. -/
structure Candidate where
  source : Source
  descriptor : Descriptor
  entityName : String
  datasource : Option String := none
deriving DecidableEq, Repr

/-- The names that a candidate goes by. -/
def Candidate.aliases (c : Candidate) : List String :=
  [c.entityName, c.source.qualifiedName, c.source.className, c.descriptor.name].map Text.lower

/-- A datasource and a name in lower case. -/
abbrev ScopedName := Option String × String

/-- The entities of a batch in order, the entity that each name means, and the file that each entity
name is taken by. -/
structure Roster where
  candidates : List Candidate := []
  names : List (ScopedName × String) := []
  taken : List (String × Path) := []
deriving DecidableEq, Repr

namespace Roster

/-- Gives a name a meaning unless it has one. -/
def addName (names : List (ScopedName × String)) (name : ScopedName) (entity : String) :
    List (ScopedName × String) :=
  if (names.lookup name).isSome then names else names ++ [(name, entity)]

/-- Gives all names of a candidate a meaning. -/
def addNames (names : List (ScopedName × String)) (c : Candidate) : List (ScopedName × String) :=
  c.aliases.foldl (fun acc name => addName acc (c.datasource, name) c.entityName) names

/-- Adds a candidate, unless its entity name is taken. -/
def register (r : Roster) (c : Candidate) : Except MappingError Roster :=
  let key := Text.lower c.entityName
  match r.taken.lookup key with
  | some first => .error (.duplicateEntity c.entityName first.text c.source.path.text)
  | none =>
    .ok {
      candidates := r.candidates ++ [c]
      names := addNames r.names c
      taken := r.taken ++ [(key, c.source.path)] }

/-- The entity that a reference means within a datasource: as a whole, or else by its last segment.
An entity with an empty name is not what a whole reference means. -/
def lookup (r : Roster) (reference : String) (datasource : Option String) : Option String :=
  let name := Text.lower (Text.trim reference)
  (nonEmpty? (r.names.lookup (datasource, name))).or
    (r.names.lookup (datasource, Text.lastSegment name))

/-- The place of a subclass with the entity that its parent is. -/
def resolvePlacement (r : Roster) (e : MappedEntity) (p : Placement) :
    Except MappingError Placement :=
  match r.lookup p.parent e.datasource with
  | some parent => .ok { p with parentEntity := some parent }
  | none => .error (.unknownEntity e.entityName none p.parent)

/-- A property with the entity that it refers to. -/
def resolveProperty (r : Roster) (e : MappedEntity) (p : MappedProperty) :
    Except MappingError MappedProperty :=
  match p.association with
  | none => .ok p
  | some a =>
    match r.lookup a.target e.datasource with
    | some target => .ok { p with association := some { a with targetEntity := some target } }
    | none => .error (.unknownEntity e.entityName (some p.name) a.target)

/-- Properties with the entities that they refer to; the first unknown one counts. -/
def resolveProperties (r : Roster) (e : MappedEntity) :
    List MappedProperty → Except MappingError (List MappedProperty)
  | [] => .ok []
  | p :: rest => do
    let p ← r.resolveProperty e p
    let rest ← resolveProperties r e rest
    return p :: rest

/-- An entity with the entities that its parent and its relationships are. -/
def resolve (r : Roster) (e : MappedEntity) : Except MappingError MappedEntity := do
  let placement ←
    match e.placement with
    | none => pure none
    | some p => (r.resolvePlacement e p).map some
  let properties ← r.resolveProperties e e.properties
  return { e with placement, properties }

end Roster

end OrmMapping
