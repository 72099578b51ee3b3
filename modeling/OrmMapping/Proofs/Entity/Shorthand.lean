import OrmMapping.Proofs.Entity.Footprint
import OrmMapping.Proofs.Property.Shorthand

/-!
# Shorthand on classes

Both vocabularies read sets on a class: the discriminator and the join column, and the structured
one its entity, table and cache, too. A class is mapped alike, with the same faults and warnings,
when some of the single values that stand for such sets are spelled out, in the class itself, in the
classes above it, and in the properties of all of them.

* `Descriptor.SpelledOut`: descriptors that are the same but for shorthand;
* `ClassDecl.SpelledOut.alike`: of one class the same is read;
* `effectivePropertiesOf_spelledOut`, `placement_eq`: what a class has of those above;
* `MappedEntity.ofDescriptor_spelledOut`: the mapping as a whole.
-/

namespace OrmMapping

/-- Classes that are the same but for shorthand. The properties of a class may be read in the
vocabulary of another one, which inherits them. -/
structure ClassDecl.SpelledOut (reader : Dialect) (c c' : ClassDecl) : Prop where
  name : c'.name = c.name
  annotations : OrmMapping.SpelledOut c.dialect.classShorthands c.annotations c'.annotations
  properties : List.Forall₂ (PropertyDecl.SpelledOut reader) c.properties c'.properties

/-- The classes above a class that are the same but for shorthand, nearest first. The properties of
a persistent class are read in its own vocabulary, those of another one in that of the class
below. -/
inductive AncestorsSpelledOut : Dialect → List ClassDecl → List ClassDecl → Prop
  | nil (reader : Dialect) : AncestorsSpelledOut reader [] []
  | cons {reader reader' : Dialect} {c c' : ClassDecl} {above above' : List ClassDecl}
    (hreader : reader' = if isEntity c.annotations then c.dialect else reader)
    (first : c.SpelledOut reader' c') (rest : AncestorsSpelledOut reader' above above') :
    AncestorsSpelledOut reader (c :: above) (c' :: above')

/-- Descriptors that are the same but for shorthand. -/
structure Descriptor.SpelledOut (d d' : Descriptor) : Prop where
  own : d.own.SpelledOut d.dialect d'.own
  ancestors : AncestorsSpelledOut d.dialect d.ancestors d'.ancestors

variable {a a' : Annotations} {c c' : ClassDecl} {d d' : Descriptor} {dialect reader : Dialect}
  {name entity : String} {above above' : List ClassDecl} {decls decls' : List PropertyDecl}

/-! ## One class -/

/-- No vocabulary reads a key of a class both as a set and as a single value. -/
theorem classKeys_areApart (dialect : Dialect) : dialect.classKeys.areApart = true := by
  cases dialect <;> decide

/-- Annotation sets that are the same but for shorthand are alike under the class keys. -/
theorem alikeUnder_of_spelledOut (h : a.SpelledOut dialect.classShorthands a') :
    a.AlikeUnder dialect.classKeys a' :=
  Annotations.SpelledOut.alikeUnder h (classKeys_areApart dialect)

/-- The flags for updates do not count on shorthand. -/
theorem updateFlags_spelledOut (h : a.SpelledOut dialect.classShorthands a') :
    UpdateFlags.read a' = UpdateFlags.read a :=
  updateFlags_alike (alikeUnder_of_spelledOut h)

namespace ClassDecl.SpelledOut

variable (h : c.SpelledOut reader c')

include h

/-- Classes that are the same but for shorthand are alike to the mapping. -/
theorem alike : c.Alike c' :=
  ⟨h.name, OrmMapping.SpelledOut.alikeUnder h.annotations (classKeys_areApart c.dialect)⟩

/-- The mark of persistent classes is no shorthand, so both are persistent or neither is. -/
theorem isEntity_eq : isEntity c'.annotations = isEntity c.annotations := by
  have hmarker : c.dialect.classShorthands.get? Dialect.classicMarker = none := by
    cases c.dialect <;> decide
  unfold isEntity
  rw [h.annotations.has_eq, h.annotations.get?_eq hmarker]

/-- Both classes hand their properties down or neither does, with the same fault if there is one. -/
theorem handsDown_eq : handsDown c' = handsDown c := by
  have hkey : c.dialect.classShorthands.get? "mappedsuperclass" = none := by
    cases c.dialect <;> decide
  simp only [handsDown, Annotations.flag, Annotations.malformed, h.annotations.get?_eq hkey,
    h.alike.className_eq, h.isEntity_eq]

end ClassDecl.SpelledOut

/-! ## Properties -/

/-- Two readings of declarations that are the same but for shorthand, or the same fault. -/
inductive DeclsAlike (reader : Dialect) :
    Except MappingError (List PropertyDecl) → Except MappingError (List PropertyDecl) → Prop
  | failed (e : MappingError) : DeclsAlike reader (.error e) (.error e)
  | given {decls decls' : List PropertyDecl}
    (related : List.Forall₂ (PropertyDecl.SpelledOut reader) decls decls') :
    DeclsAlike reader (.ok decls) (.ok decls')

/-- Steps `f` and `f'` that do not tell spelled-out declarations apart come to the same after
readings that are alike. -/
theorem DeclsAlike.bind_eq {β : Type} {x x' : Except MappingError (List PropertyDecl)}
    {f f' : List PropertyDecl → Report β} (h : DeclsAlike reader x x')
    (hnext : ∀ decls decls', List.Forall₂ (PropertyDecl.SpelledOut reader) decls decls' →
      f' decls' = f decls) :
    ((liftM x' : Report _) >>= f') = ((liftM x : Report _) >>= f) := by
  -- a fault ends both, and what is given is the same but for shorthand
  cases h with
  | failed e => rfl
  | @given decls decls' related =>
    have hok : ∀ (f : List PropertyDecl → Report β) decls,
        (liftM (.ok decls : Except MappingError (List PropertyDecl)) >>= f) = f decls :=
      fun _ _ => rfl
    rw [hok, hok, hnext decls decls' related]

/-- Overriding counts on the names of the properties, which shorthand does not touch. -/
theorem overrideBy_spelledOut {own own' inherited inherited' : List PropertyDecl}
    (hown : List.Forall₂ (PropertyDecl.SpelledOut reader) own own')
    (hinherited : List.Forall₂ (PropertyDecl.SpelledOut reader) inherited inherited') :
    List.Forall₂ (PropertyDecl.SpelledOut reader) (overrideBy own inherited)
      (overrideBy own' inherited') := by
  have hnames : (own'.map fun p => Text.lower p.name) = own.map fun p => Text.lower p.name :=
    names_alike (hown.imp fun _ _ hdecl => hdecl.alike)
  unfold overrideBy
  refine List.rel_append (List.rel_filter ?_ hinherited) hown
  intro p p' hp
  dsimp only
  rw [hnames, hp.name]

/-- The effective properties of both chains are the same but for shorthand, or the same fault comes
up. A class that hands down is not persistent, so it is read in the vocabulary of the class
below. -/
theorem effectivePropertiesOf_spelledOut (h : c.SpelledOut reader c')
    (habove : AncestorsSpelledOut reader above above') :
    DeclsAlike reader (effectivePropertiesOf c above) (effectivePropertiesOf c' above') := by
  -- along the chain of classes above; each takes the place of the class itself in turn
  induction habove generalizing c c' with
  | nil reader => exact .given h.properties
  | @cons reader reader' parent parent' above above' hreader hparent _ ih =>
    unfold effectivePropertiesOf
    rw [hparent.handsDown_eq]
    cases hhands : handsDown parent with
    | error e => exact .failed e
    | ok hands =>
      cases hands with
      | false => exact .given h.properties
      | true =>
        have htransient : isEntity parent.annotations = false := by
          obtain ⟨marked, -, hmarked⟩ := bind_eq_ok.mp hhands
          simpa using (Bool.and_eq_true_iff.mp (pure_eq_ok.mp hmarked)).2
        rw [htransient] at hreader
        subst hreader
        have hinherited := ih hparent
        generalize effectivePropertiesOf parent above = x at hinherited ⊢
        generalize effectivePropertiesOf parent' above' = x' at hinherited ⊢
        cases hinherited with
        | failed e => exact .failed e
        | given related => exact .given (overrideBy_spelledOut h.properties related)

/-- The search for the column of the identifier does not count on shorthand. -/
theorem firstIdColumn_spelledOut
    (h : List.Forall₂ (PropertyDecl.SpelledOut dialect) decls decls') (entity : String) :
    Descriptor.firstIdColumn dialect entity decls' =
      Descriptor.firstIdColumn dialect entity decls := by
  induction h with
  | nil => rfl
  | cons hfirst _ ih => simp only [Descriptor.firstIdColumn, ofDecl_spelledOut hfirst, ih]

/-- The places of the properties do not count on shorthand, neither that of the declarations nor
that of the class. -/
theorem ofDecls_spelledOut (h : List.Forall₂ (PropertyDecl.SpelledOut dialect) decls decls')
    (hset : a.SpelledOut dialect.classShorthands a') :
    PropertyPlaces.ofDecls dialect a' decls' = PropertyPlaces.ofDecls dialect a decls :=
  ofDecls_alike (h.imp fun _ _ hdecl => hdecl.alike) (alikeUnder_of_spelledOut hset)

/-! ## Classes with those above them -/

namespace Descriptor.SpelledOut

/-- Both descriptors are in the same vocabulary. -/
theorem dialect_eq (h : d.SpelledOut d') : d'.dialect = d.dialect :=
  dialect_alike h.own.alike

/-- The annotation sets of both are the same but for shorthand, for any `entity`. -/
theorem annotationSet (h : d.SpelledOut d') (entity : String) :
    (d.annotationSet entity).SpelledOut d.dialect.classShorthands (d'.annotationSet entity) :=
  ⟨rfl, rfl, h.own.annotations⟩

/-- Both descriptors have no parent, or they have parents of the same name, both persistent or
neither; persistent ones are the same but for shorthand. -/
theorem parents (h : d.SpelledOut d') : d.parent? = none ∧ d'.parent? = none ∨
    ∃ p p', d.parent? = some p ∧ d'.parent? = some p' ∧ p'.name = p.name ∧
      p'.isPersistent = p.isPersistent ∧ (p.isPersistent = true → p.SpelledOut p') := by
  have habove := h.ancestors
  unfold Descriptor.parent?
  generalize d.ancestors = line at habove ⊢
  generalize d'.ancestors = line' at habove ⊢
  cases habove with
  | nil => exact .inl ⟨rfl, rfl⟩
  | @cons _ reader' parent parent' above above' hreader hparent habove =>
    refine .inr ⟨⟨parent, above⟩, ⟨parent', above'⟩, rfl, rfl, hparent.name, ?_⟩
    refine ⟨hparent.isEntity_eq, fun hpersistent => ?_⟩
    have hentity : isEntity parent.annotations = true := hpersistent
    rw [hentity] at hreader
    subst hreader
    exact ⟨hparent, habove⟩

variable (h : d.SpelledOut d')

include h

/-- The entity name does not count on shorthand. -/
theorem entityName_eq : d'.entityName = d.entityName :=
  entityName_alike h.own.alike

/-- The declared table does not count on shorthand. -/
theorem declaredTable_eq : d'.declaredTable = d.declaredTable :=
  declaredTable_alike h.own.alike

/-- The datasource does not count on shorthand. -/
theorem datasource_eq (fallback : Option String) :
    d'.datasource fallback = d.datasource fallback :=
  datasource_alike h.own.alike fallback

/-- The facts of a class do not count on shorthand. -/
theorem classFacts_eq : ClassFacts.read d' = ClassFacts.read d :=
  classFacts_alike h.own.alike

/-- The effective properties of both are the same but for shorthand, or the same fault comes up. -/
theorem effectiveProperties : DeclsAlike d.dialect d.effectiveProperties d'.effectiveProperties :=
  effectivePropertiesOf_spelledOut h.own h.ancestors

/-- The column of the identifier does not count on shorthand. -/
theorem identifierColumn_eq : d'.identifierColumn = d.identifierColumn := by
  unfold Descriptor.identifierColumn
  rw [h.entityName_eq, h.dialect_eq]
  refine bind_congr fun entity => ?_
  exact h.effectiveProperties.bind_eq fun decls decls' hdecls =>
    firstIdColumn_spelledOut hdecls entity

/-- The place of a class does not count on shorthand, neither that of the class nor that of its
parent. -/
theorem placement_eq (entity : String) (D : Option Discriminator) :
    Placement.of? d' (d'.annotationSet entity) D = Placement.of? d (d.annotationSet entity) D := by
  have hset := alikeUnder_of_spelledOut (h.annotationSet entity)
  obtain ⟨hmark, hjoin⟩ := joinColumn_mem_sets d.dialect
  unfold Placement.of?
  rcases h.parents with ⟨hd, hd'⟩ | ⟨p, p', hd, hd', -, hpersistent, hparent⟩
  · rw [hd, hd']
  · rw [hd, hd']
    dsimp only
    rw [hpersistent, hset.has_set_eq hmark, hset.nested_eq hjoin]
    -- only of a persistent parent a name, a table and an identifier are read
    cases hentity : p.isPersistent with
    | false => simp only [Bool.not_false, if_true]
    | true =>
      have hparent := hparent hentity
      simp only [hparent.entityName_eq, hparent.declaredTable_eq, hparent.identifierColumn_eq]

/-- Whether a class extends another one counts on the name of the parent only. -/
theorem isExtended_eq : d'.isExtended = d.isExtended := by
  unfold Descriptor.isExtended
  rcases h.parents with ⟨hd, hd'⟩ | ⟨p, p', hd, hd', hname, -, -⟩
  · rw [hd, hd']
  · rw [hd, hd', Option.any_some, Option.any_some, hname]

end Descriptor.SpelledOut

/-! ## Entities -/

/-- The check of the key does not count on shorthand. -/
theorem requireKey_of_same (h : a.SpelledOut dialect.classShorthands a') (table : String)
    (placement : Option Placement) :
    requireKey a' table placement = requireKey a table placement :=
  requireKey_alike (alikeUnder_of_spelledOut h) placement table

/-- The check of the identifier does not count on shorthand. -/
theorem requireIdentifier_of_same (h : a.SpelledOut dialect.classShorthands a')
    (places : PropertyPlaces) (placement : Option Placement) :
    requireIdentifier a' places placement = requireIdentifier a places placement :=
  requireIdentifier_alike (alikeUnder_of_spelledOut h) placement places

/-- Descriptors that are the same but for shorthand are mapped to the same entity or refused with
the same fault, and with the same warnings. -/
theorem MappedEntity.ofDescriptor_spelledOut (h : d.SpelledOut d') (fallback : Option String) :
    MappedEntity.ofDescriptor d' fallback = MappedEntity.ofDescriptor d fallback := by
  unfold MappedEntity.ofDescriptor
  refine h.effectiveProperties.bind_eq fun decls decls' hdecls => ?_
  rw [h.classFacts_eq]
  refine bind_congr fun facts => ?_
  have hset := h.annotationSet facts.entityName
  dsimp only
  simp only [h.placement_eq, h.declaredTable_eq, requireKey_of_same hset, h.dialect_eq,
    ofDecls_spelledOut hdecls hset, requireIdentifier_of_same hset, updateFlags_spelledOut hset,
    h.datasource_eq, h.isExtended_eq]

/-- A vehicle, of which a van is a joined subclass. -/
def vehicle : ClassDecl where
  name := "garage.Vehicle"
  annotations := [("entity", .str "Vehicle"), ("table", .list [.str "vehicles", .null])]
  properties := [⟨"id", [("id", .bool true), ("column", .str "nr")]⟩]

/-- A van, which has an owner. -/
def van : ClassDecl where
  name := "garage.Van"
  annotations := [("entity", .null), ("joincolumn", .str "vehicle_nr"), ("cache", .int 1)]
  properties := [⟨"owner", [("manytoone", .str "Person"), ("joincolumn", .str "owner_nr")]⟩]

/-- Some annotations with one value spelled out. -/
def spellOut (key shorthand : String) (value : Value) (entries : Keyed Value) : Keyed Value :=
  entries.put key (.map [(shorthand, value)])

/-- The vehicle with its table spelled out. -/
def spelledVehicle : ClassDecl :=
  { vehicle with
    annotations := spellOut "table" "name" (.list [.str "vehicles", .null]) vehicle.annotations }

/-- The van with its join column and its relationship spelled out. -/
def spelledVan : ClassDecl :=
  { van with
    annotations := spellOut "joincolumn" "name" (.str "vehicle_nr") van.annotations
    properties := [⟨"owner", spellOut "manytoone" "targetentity" (.str "Person")
      [("manytoone", .str "Person"), ("joincolumn", .str "owner_nr")]⟩] }

/-- A van below a vehicle is mapped alike with its join column, its relationship and the table of
the vehicle spelled out. -/
theorem MappedEntity.ofDescriptor_spelledOut_van :
    Descriptor.SpelledOut ⟨van, [vehicle]⟩ ⟨spelledVan, [spelledVehicle]⟩ ∧
    MappedEntity.ofDescriptor ⟨spelledVan, [spelledVehicle]⟩ none =
      MappedEntity.ofDescriptor ⟨van, [vehicle]⟩ none ∧
    (MappedEntity.ofDescriptor ⟨van, [vehicle]⟩ none).outcome.toOption.isSome = true := by
  have hvan : van.SpelledOut .modern spelledVan :=
    ⟨rfl, spelledOut_put (by decide) rfl (by decide +kernel),
      .cons ⟨rfl, spelledOut_put (by decide) rfl (by decide +kernel)⟩ .nil⟩
  have hvehicle : vehicle.SpelledOut .modern spelledVehicle :=
    ⟨rfl, spelledOut_put (by decide) rfl rfl, .cons (.refl _ _) .nil⟩
  have h : Descriptor.SpelledOut ⟨van, [vehicle]⟩ ⟨spelledVan, [spelledVehicle]⟩ :=
    ⟨hvan, .cons rfl hvehicle (.nil _)⟩
  exact ⟨h, ofDescriptor_spelledOut h none, by decide +kernel⟩

end OrmMapping
