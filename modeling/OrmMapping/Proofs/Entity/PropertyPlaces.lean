import Mathlib.Data.List.Nodup
import Mathlib.Data.List.ReduceOption
import OrmMapping.Proofs.Batch.Sources
import OrmMapping.Proofs.Entity.Faults
import OrmMapping.Proofs.Property.Agreement
import OrmMapping.Proofs.Property.Coherence

/-!
# Every property in its place

The declarations of a class are mapped in turn, and each mapped property is put in one of three
places. What comes out of this are three selections from the list of all mapped properties. None is
lost but later versions, none stands in two places, and the order is kept. It goes wrong only where
a declaration cannot be mapped or a name comes twice.

* `mappedDecls`, `Descriptor.mappedProperties`: the list of all mapped properties;
* `PropertyPlaces.extend`: the places that several properties take;
* `outcome_add`, `addDecls_eq_ok_iff`: one property, and all declarations in turn;
* `MappedEntity.Arranges`: the properties of an entity are a list of them, each in its place;
* `MappedEntity.arranges_of_ofDescriptor`: the properties of a mapped class, and when there is none.
-/

namespace OrmMapping

variable {p : MappedProperty} {ps : List MappedProperty} {places places' : PropertyPlaces}
  {decl : PropertyDecl} {decls : List PropertyDecl} {dialect : Dialect} {a : Annotations}
  {entity : String} {seen : List String}

/-! ## Mapped properties -/

/-- The name without regard to case. -/
def MappedProperty.foldedName (p : MappedProperty) : String :=
  Text.lower p.name

/-- Whether a property is a column or a relationship. -/
def MappedProperty.isPlain (p : MappedProperty) : Bool :=
  match p.kind with
  | .column | .association _ => true
  | .id | .version | .timestamp | .collection => false

/-- What declarations are mapped to, in order; those that are not persisted are left out. -/
def mappedDecls (dialect : Dialect) (entity : String) (decls : List PropertyDecl) :
    Except MappingError (List MappedProperty) :=
  (decls.mapM fun decl => (MappedProperty.ofDecl decl dialect entity).outcome).map
    List.reduceOption

/-- What the effective properties of a class are mapped to. -/
def Descriptor.mappedProperties (d : Descriptor) (entity : String) :
    Except MappingError (List MappedProperty) := do
  let decls ← d.effectiveProperties
  mappedDecls d.dialect entity decls

/-- The step of `mappedDecls`: the first declaration is mapped to a property or to none, and it
stands before what the rest is mapped to. -/
theorem mappedDecls_cons_eq_ok_iff :
    mappedDecls dialect entity (decl :: decls) = .ok ps ↔
      ∃ mapped rest, (MappedProperty.ofDecl decl dialect entity).outcome = .ok mapped ∧
        mappedDecls dialect entity decls = .ok rest ∧ mapped.toList ++ rest = ps := by
  have hreduce : ∀ (mapped : Option MappedProperty) rest,
      (mapped :: rest).reduceOption = mapped.toList ++ rest.reduceOption := by
    rintro (_ | p) rest
    · exact List.reduceOption_cons_of_none rest
    · exact List.reduceOption_cons_of_some p rest
  simp only [mappedDecls, map_eq_ok, List.mapM_cons, bind_eq_ok, pure_eq_ok]
  constructor
  · rintro ⟨_, ⟨mapped, hmapped, rest, hrest, rfl⟩, rfl⟩
    exact ⟨mapped, rest.reduceOption, hmapped, ⟨rest, hrest, rfl⟩, (hreduce mapped rest).symm⟩
  · rintro ⟨mapped, _, hmapped, ⟨rest, hrest, rfl⟩, rfl⟩
    exact ⟨mapped :: rest, ⟨mapped, hmapped, rest, hrest, rfl⟩, hreduce mapped rest⟩

/-- Every property in `ps` is what one of `decls` is mapped to. -/
theorem exists_decl_of_mem_mappedDecls (h : mappedDecls dialect entity decls = .ok ps)
    (hp : p ∈ ps) :
    ∃ decl ∈ decls, (MappedProperty.ofDecl decl dialect entity).outcome = .ok (some p) := by
  obtain ⟨mapped, hmapped, rfl⟩ := map_eq_ok.mp h
  exact exists_of_mem_mapM hmapped (List.reduceOption_mem_iff.mp hp)

/-- No property that is mapped is a collection: it is a relationship or a fault. -/
theorem kind_of_mem_mappedDecls (h : mappedDecls dialect entity decls = .ok ps) (hp : p ∈ ps) :
    p.kind ≠ .collection := by
  obtain ⟨decl, -, hdecl⟩ := exists_decl_of_mem_mappedDecls h hp
  obtain ⟨facts, hsound, hfacts⟩ := MappedProperty.exists_facts_of_ofDecl hdecl
  exact (MappedProperty.coherent_of_ofFacts hsound hfacts).notCollection

/-- A property that is no collection is plain exactly when it is neither an identifier nor a
version. -/
theorem isPlain_eq (h : p.kind ≠ .collection) : (!p.isId && !p.isVersion) = p.isPlain := by
  unfold MappedProperty.isId MappedProperty.isVersion MappedProperty.isPlain
  cases hkind : p.kind with
  | collection => exact absurd hkind h
  | id => rfl
  | column => rfl
  | version => rfl
  | timestamp => rfl
  | association k => rfl

/-- An identifier is no version. -/
theorem isVersion_of_isId (h : p.isId = true) : p.isVersion = false := by
  have hkind : p.kind = .id := by simpa [MappedProperty.isId] using h
  rw [MappedProperty.isVersion, hkind]
  rfl

/-! ## Places -/

/-- The places with properties more, each after those that are there. -/
def PropertyPlaces.extend (places : PropertyPlaces) (ps : List MappedProperty) :
    PropertyPlaces where
  ids := places.ids ++ ps.filter (·.isId)
  version := places.version.or (ps.find? (·.isVersion))
  others := places.others ++ ps.filter fun p => !p.isId && !p.isVersion

/-- Nothing more leaves the places as they are. -/
theorem extend_nil : places.extend [] = places := by
  simp [PropertyPlaces.extend]

/-- Properties that take their places in two goes take them as in one. -/
theorem extend_extend (ps qs : List MappedProperty) :
    (places.extend ps).extend qs = places.extend (ps ++ qs) := by
  simp [PropertyPlaces.extend, Option.or_assoc]

/-- The step lemma: `add` puts a property in its place. A version after the first one takes no
place, which is what `extend` says of it, too. -/
theorem outcome_add : (places.add p entity).outcome = .ok (places.extend [p]) := by
  unfold PropertyPlaces.add
  cases hid : p.isId with
  | true => simp [PropertyPlaces.extend, hid, isVersion_of_isId hid]
  | false =>
    cases hversion : p.isVersion with
    | false => simp [PropertyPlaces.extend, hid, hversion]
    | true =>
      cases hplaced : places.version with
      | none => simp [PropertyPlaces.extend, hid, hversion, hplaced]
      | some v =>
        -- the warning does not matter for the outcome
        cases places
        cases hplaced
        simp [PropertyPlaces.extend, hid, hversion, Report.warn, Report.outcome_andThen, bind,
          Except.bind]

/-! ## Names -/

/-- Properties whose names neither come twice nor are among those seen. -/
structure FreshNames (seen : List String) (ps : List MappedProperty) : Prop where
  nodup : (ps.map (·.foldedName)).Nodup
  unseen : ∀ p ∈ ps, p.foldedName ∉ seen

/-- There is no name to be fresh in the empty list. -/
theorem freshNames_nil : FreshNames seen [] :=
  ⟨List.nodup_nil, by simp⟩

/-- One property has a fresh name when the name has not been seen. -/
theorem freshNames_singleton : FreshNames seen [p] ↔ p.foldedName ∉ seen :=
  ⟨fun h => h.unseen p (List.mem_singleton_self p), fun h => ⟨List.nodup_singleton _, by simpa⟩⟩

/-- The names of `ps ++ qs` are fresh exactly when those of `ps` are, and those of `qs` are fresh
with the names of `ps` seen, too. -/
theorem freshNames_append {qs : List MappedProperty} :
    FreshNames seen (ps ++ qs) ↔
      FreshNames seen ps ∧ FreshNames (ps.map (·.foldedName) ++ seen) qs := by
  constructor
  · rintro ⟨hnodup, hunseen⟩
    rw [List.map_append, List.nodup_append'] at hnodup
    obtain ⟨hps, hqs, hdisjoint⟩ := hnodup
    obtain ⟨hpsUnseen, hqsUnseen⟩ := List.forall_mem_append.mp hunseen
    refine ⟨⟨hps, hpsUnseen⟩, hqs, fun q hq hmem => ?_⟩
    rcases List.mem_append.mp hmem with hmem | hmem
    · exact hdisjoint hmem (List.mem_map_of_mem hq)
    · exact hqsUnseen q hq hmem
  · rintro ⟨⟨hps, hpsUnseen⟩, hqs, hqsUnseen⟩
    refine ⟨?_, List.forall_mem_append.mpr ⟨hpsUnseen, fun q hq hmem => ?_⟩⟩
    · rw [List.map_append, List.nodup_append']
      refine ⟨hps, hqs, fun name hname hagain => ?_⟩
      obtain ⟨q, hq, rfl⟩ := List.mem_map.mp hagain
      exact hqsUnseen q hq (List.mem_append_left _ hname)
    · exact hqsUnseen q hq (List.mem_append_right _ hmem)

/-! ## Declarations in turn -/

/-- The step lemma: the first declaration is mapped, takes a fresh name and a place if it is
persisted, and the rest goes on with this name seen. -/
theorem addDecls_cons_eq_ok_iff :
    (PropertyPlaces.addDecls dialect a seen places (decl :: decls)).outcome = .ok places' ↔
      ∃ mapped, (MappedProperty.ofDecl decl dialect a.entity).outcome = .ok mapped ∧
        FreshNames seen mapped.toList ∧
        (PropertyPlaces.addDecls dialect a (mapped.toList.map (·.foldedName) ++ seen)
          (places.extend mapped.toList) decls).outcome = .ok places' := by
  rw [PropertyPlaces.addDecls, Report.bind_def, Report.outcome_andThen_eq_ok]
  refine exists_congr fun mapped => and_congr_right fun _ => ?_
  cases mapped with
  | none =>
    rw [Option.toList_none, extend_nil]
    exact ⟨fun h => ⟨freshNames_nil, h⟩, And.right⟩
  | some p =>
    rw [Option.toList_some, freshNames_singleton]
    dsimp only
    split
    · next hseen =>
      have hmem : p.foldedName ∈ seen := by simpa [MappedProperty.foldedName] using hseen
      constructor
      · intro h
        cases h
      · rintro ⟨hfresh, -⟩
        exact absurd hmem hfresh
    · next hnew =>
      have hfresh : p.foldedName ∉ seen := by simpa [MappedProperty.foldedName] using hnew
      rw [Report.bind_def, Report.outcome_andThen_eq_ok]
      constructor
      · rintro ⟨next, hnext, h⟩
        rw [outcome_add] at hnext
        cases hnext
        exact ⟨hfresh, h⟩
      · rintro ⟨-, h⟩
        exact ⟨_, outcome_add, h⟩

/-- The run lemma: `addDecls` succeeds exactly when all of `decls` can be mapped to properties `ps`
with fresh names, and gives the places with `ps` more. -/
theorem addDecls_eq_ok_iff :
    (PropertyPlaces.addDecls dialect a seen places decls).outcome = .ok places' ↔
      ∃ ps, mappedDecls dialect a.entity decls = .ok ps ∧ FreshNames seen ps ∧
        places.extend ps = places' := by
  -- the names seen and the places grow with every declaration
  induction decls generalizing seen places with
  | nil =>
    constructor
    · intro h
      cases h
      exact ⟨[], rfl, freshNames_nil, extend_nil⟩
    · rintro ⟨ps, hmapped, -, rfl⟩
      have hps : ps = [] := (Except.ok.inj hmapped).symm
      rw [hps, extend_nil]
      rfl
  | cons decl rest ih =>
    rw [addDecls_cons_eq_ok_iff]
    constructor
    · rintro ⟨mapped, hmapped, hfirst, h⟩
      obtain ⟨ps, hps, hrest, rfl⟩ := ih.mp h
      exact ⟨mapped.toList ++ ps,
        mappedDecls_cons_eq_ok_iff.mpr ⟨mapped, ps, hmapped, hps, rfl⟩,
        freshNames_append.mpr ⟨hfirst, hrest⟩, (extend_extend _ _).symm⟩
    · rintro ⟨_, hall, hfresh, rfl⟩
      obtain ⟨mapped, ps, hmapped, hps, rfl⟩ := mappedDecls_cons_eq_ok_iff.mp hall
      obtain ⟨hfirst, hrest⟩ := freshNames_append.mp hfresh
      exact ⟨mapped, hmapped, hfirst, ih.mpr ⟨ps, hps, hrest, extend_extend _ _⟩⟩

/-! ## Entities -/

/-- The properties of an entity are those of a list, each in its place: no name comes twice, and
whatever has no place is a version after the first one. -/
structure MappedEntity.Arranges (e : MappedEntity) (ps : List MappedProperty) : Prop where
  names : (ps.map (·.foldedName)).Nodup
  ids : e.ids = ps.filter (·.isId)
  version : e.version = ps.find? (·.isVersion)
  properties : e.properties = ps.filter (·.isPlain)
  all : (e.ids ++ (e.version.toList ++ (ps.filter (·.isVersion)).tail) ++ e.properties).Perm ps
  once : (e.ids ++ (e.version.toList ++ (ps.filter (·.isVersion)).tail) ++ e.properties).Nodup
  placed : e.ids = [] → e.placement.isSome = true

/-- The first version and the later ones are all versions. -/
theorem version_append_tail (ps : List MappedProperty) :
    (ps.find? (·.isVersion)).toList ++ (ps.filter (·.isVersion)).tail =
      ps.filter (·.isVersion) := by
  rw [← List.head?_filter]
  cases ps.filter (·.isVersion) <;> rfl

/-- Identifiers, versions and plain properties are all of `ps`, each once. -/
theorem perm_of_kinds (h : ∀ p ∈ ps, p.kind ≠ .collection) :
    (ps.filter (·.isId) ++ ps.filter (·.isVersion) ++ ps.filter (·.isPlain)).Perm ps := by
  -- no identifier is a version, so the versions may be taken from the rest
  have hversions : ps.filter (·.isVersion) =
      (ps.filter fun p => !p.isId).filter (·.isVersion) := by
    rw [List.filter_filter]
    refine List.filter_congr fun p _ => ?_
    cases hid : p.isId with
    | true => simp [isVersion_of_isId hid]
    | false => simp
  have hplain : ps.filter (·.isPlain) =
      (ps.filter fun p => !p.isId).filter fun p => !p.isVersion := by
    rw [List.filter_filter]
    refine List.filter_congr fun p hp => ?_
    rw [← isPlain_eq (h p hp), Bool.and_comm]
  rw [List.append_assoc, hversions, hplain]
  exact ((List.filter_append_perm _ _).append_left _).trans (List.filter_append_perm _ _)

namespace MappedEntity

variable {d : Descriptor} {fallback : Option String} {facts : ClassFacts}
  {placement : Option Placement} {e : MappedEntity}

/-- An entity with the places of `ps` arranges `ps`, when the names differ and it is identified. -/
theorem arranges_of_extend (hkinds : ∀ p ∈ ps, p.kind ≠ .collection)
    (hnames : (ps.map (·.foldedName)).Nodup)
    (hplaces : ⟨e.ids, e.version, e.properties⟩ = PropertyPlaces.extend {} ps)
    (hidentified : e.isIdentified = true) : e.Arranges ps := by
  obtain ⟨hids, hversion, hothers⟩ := PropertyPlaces.mk.inj hplaces
  have hids : e.ids = ps.filter (·.isId) := hids
  have hversion : e.version = ps.find? (·.isVersion) := hversion
  have hplain : e.properties = ps.filter (·.isPlain) :=
    hothers.trans (List.filter_congr fun p hp => isPlain_eq (hkinds p hp))
  have hall : (e.ids ++ (e.version.toList ++ (ps.filter (·.isVersion)).tail) ++
      e.properties).Perm ps := by
    rw [hids, hversion, hplain, version_append_tail]
    exact perm_of_kinds hkinds
  -- names that differ make the properties differ, too
  refine ⟨hnames, hids, hversion, hplain, hall, ?_, fun hnone => ?_⟩
  · exact hall.nodup_iff.mpr hnames.of_map
  · simpa [isIdentified, hnone] using hidentified

/-- Everything of a class is read but its properties, and its place is one that it can have. -/
structure ReadsAs (d : Descriptor) (fallback : Option String) (facts : ClassFacts)
    (placement : Option Placement) : Prop where
  read : ClassFacts.read d = .ok facts
  place : (Placement.of? d (d.annotationSet facts.entityName) facts.discriminator).outcome =
    .ok placement
  key : ∃ declared, d.declaredTable = .ok declared ∧
    requireKey (d.annotationSet facts.entityName) (tableAt facts declared placement) placement =
      .ok ()
  flags : ∃ flags, UpdateFlags.read (d.annotationSet facts.entityName) = .ok flags
  datasource : ∃ datasource, d.datasource fallback = .ok datasource

/-- The effective properties of a mapped class are mapped to a list that the entity arranges. -/
theorem exists_arranges_of_ofDescriptor (h : (ofDescriptor d fallback).outcome = .ok e) :
    ∃ ps, d.mappedProperties e.entityName = .ok ps ∧ e.Arranges ps := by
  have hidentified := isIdentified_of_ofDescriptor h
  obtain ⟨parts, hread, rfl⟩ := ofDescriptor_eq_ok_iff.mp h
  obtain ⟨ps, hps, hfresh, hplaces⟩ := addDecls_eq_ok_iff.mp hread.places
  refine ⟨ps, bind_eq_ok.mpr ⟨parts.decls, hread.decls, hps⟩, ?_⟩
  exact arranges_of_extend (fun p hp => kind_of_mem_mappedDecls hps hp) hfresh.nodup
    hplaces.symm hidentified

/-- What holds of every mapped declaration holds of all properties that a class maps. -/
theorem forall_mem_mappedProperties {P : MappedProperty → Prop}
    (hP : ∀ decl dialect entity p,
      (MappedProperty.ofDecl decl dialect entity).outcome = .ok (some p) → P p)
    (h : d.mappedProperties entity = .ok ps) : ∀ p ∈ ps, P p := by
  intro p hp
  obtain ⟨decls, -, hps⟩ := bind_eq_ok.mp h
  obtain ⟨decl, -, hdecl⟩ := exists_decl_of_mem_mappedDecls hps hp
  exact hP decl _ _ p hdecl

/-- The check of the identifier refuses exactly when `ps` has no identifier and there is no
placement. -/
theorem requireIdentifier_extend_eq_ok_iff :
    requireIdentifier a (PropertyPlaces.extend {} ps) placement = .ok () ↔
      ¬ (ps.filter (·.isId) = [] ∧ placement = none) := by
  have hids : (PropertyPlaces.extend {} ps).ids = ps.filter (·.isId) := rfl
  unfold requireIdentifier
  rw [hids]
  split
  · next hmissing => simpa using hmissing
  · next hpresent => simpa using hpresent

/-- When everything else is read, a class is mapped exactly when no name comes twice among `ps` and
there is an identifier or a placement. -/
theorem exists_ofDescriptor_iff (hreads : ReadsAs d fallback facts placement)
    (hps : d.mappedProperties facts.entityName = .ok ps) :
    (∃ e, (ofDescriptor d fallback).outcome = .ok e) ↔
      (ps.map (·.foldedName)).Nodup ∧ ¬ (ps.filter (·.isId) = [] ∧ placement = none) := by
  obtain ⟨decls, hdecls, hps⟩ := bind_eq_ok.mp hps
  obtain ⟨declared, hdeclared, hkey⟩ := hreads.key
  constructor
  · rintro ⟨e, he⟩
    obtain ⟨⟨decls', facts', placement', _, places, _, _⟩, hread, rfl⟩ :=
      ofDescriptor_eq_ok_iff.mp he
    -- the readings are functions, so the parts of the entity are those given
    obtain rfl : decls = decls' := Except.ok.inj (hdecls.symm.trans hread.decls)
    obtain rfl : facts = facts' := Except.ok.inj (hreads.read.symm.trans hread.facts)
    obtain rfl : placement = placement' := Except.ok.inj (hreads.place.symm.trans hread.placement)
    obtain ⟨ps', hps', hfresh, rfl⟩ := addDecls_eq_ok_iff.mp hread.places
    obtain rfl : ps = ps' := Except.ok.inj (hps.symm.trans hps')
    exact ⟨hfresh.nodup, requireIdentifier_extend_eq_ok_iff.mp hread.identifier⟩
  · rintro ⟨hnames, hidentifier⟩
    obtain ⟨flags, hflags⟩ := hreads.flags
    obtain ⟨datasource, hdatasource⟩ := hreads.datasource
    have hplaces : (PropertyPlaces.ofDecls d.dialect (d.annotationSet facts.entityName)
        decls).outcome = .ok (PropertyPlaces.extend {} ps) :=
      addDecls_eq_ok_iff.mpr ⟨ps, hps, ⟨hnames, by simp⟩, rfl⟩
    let parts : EntityParts := ⟨decls, facts, placement, declared, .extend {} ps, flags, datasource⟩
    have hread : parts.ReadFrom d fallback :=
      ⟨hdecls, hreads.read, hreads.place, hdeclared, hkey, hplaces,
        requireIdentifier_extend_eq_ok_iff.mpr hidentifier, hflags, hdatasource⟩
    exact ⟨parts.entity d, ofDescriptor_eq_ok_iff.mpr ⟨parts, hread, rfl⟩⟩

/-- The properties of a mapped class are what its effective properties are mapped to, each in its
place. When everything else is read and all declarations can be mapped, the class is refused exactly
for a name that comes twice or for the want of both an identifier and a parent. -/
theorem arranges_of_ofDescriptor (d : Descriptor) (fallback : Option String) :
    (∀ e, (ofDescriptor d fallback).outcome = .ok e →
      ∃ ps, d.mappedProperties e.entityName = .ok ps ∧ e.Arranges ps) ∧
    ∀ facts placement ps, ReadsAs d fallback facts placement →
      d.mappedProperties facts.entityName = .ok ps →
        (Refused (ofDescriptor d fallback).outcome ↔
          ¬ (ps.map (·.foldedName)).Nodup ∨ ps.filter (·.isId) = [] ∧ placement = none) := by
  refine ⟨fun e h => exists_arranges_of_ofDescriptor h, fun facts placement ps hreads hps => ?_⟩
  rw [Refused.iff_not_ok, exists_ofDescriptor_iff hreads hps, not_and_or, Classical.not_not]

/-- Invoices: an identifier, a property that is not persisted, a column, two versions and a
relationship, and whatever else is declared. -/
def invoiceDescriptor (further : List PropertyDecl) : Descriptor where
  own := {
    name := "Invoice"
    annotations := [("persistent", .null)]
    properties := [
      { name := "total" },
      { name := "number", annotations := [("fieldtype", .str "id")] },
      { name := "note", annotations := [("persistent", .str "no")] },
      { name := "changed", annotations := [("fieldtype", .str "timestamp")] },
      { name := "revision", annotations := [("fieldtype", .str "version")] },
      { name := "lines",
        annotations := [("fieldtype", .str "one-to-many"), ("cfc", .str "Line")] }] ++ further }

/-- Invoices keep the order of their properties and lose their second version; with `Total` beside
`total` they are refused. -/
theorem arranges_of_ofDescriptor_invoice :
    (∃ e ps, (ofDescriptor (invoiceDescriptor []) none).outcome = .ok e ∧
      (invoiceDescriptor []).mappedProperties "Invoice" = .ok ps ∧ e.Arranges ps ∧
      ps.map (·.name) = ["total", "number", "changed", "revision", "lines"] ∧
      e.ids.map (·.name) = ["number"] ∧ e.version.map (·.name) = some "changed" ∧
      e.properties.map (·.name) = ["total", "lines"]) ∧
    Refused (ofDescriptor (invoiceDescriptor [{ name := "Total" }]) none).outcome := by
  constructor
  · have hmapped : (ofDescriptor (invoiceDescriptor []) none).outcome.toOption.map (fun e =>
        (e.entityName, e.ids.map (·.name), e.version.map (·.name), e.properties.map (·.name))) =
          some ("Invoice", ["number"], some "changed", ["total", "lines"]) := by
      decide +kernel
    have hnames : ((invoiceDescriptor []).mappedProperties "Invoice").toOption.map
        (·.map (·.name)) = some ["total", "number", "changed", "revision", "lines"] := by
      decide +kernel
    obtain ⟨e, he, hparts⟩ := Option.map_eq_some_iff.mp hmapped
    obtain ⟨hname, hids, hversion, hothers⟩ := by simpa only [Prod.mk.injEq] using hparts
    have he := eq_ok_of_toOption he
    obtain ⟨ps, hps, harranged⟩ := (arranges_of_ofDescriptor (invoiceDescriptor []) none).1 e he
    rw [hname] at hps
    rw [hps] at hnames
    exact ⟨e, ps, he, hps, harranged, Option.some.inj hnames, hids, hversion, hothers⟩
  · have hnames : ((invoiceDescriptor [{ name := "Total" }]).mappedProperties
        "Invoice").toOption.map (·.map (·.foldedName)) =
          some ["total", "number", "changed", "revision", "lines", "total"] := by
      decide +kernel
    obtain ⟨ps, hps, hnames⟩ := Option.map_eq_some_iff.mp hnames
    refine ((arranges_of_ofDescriptor _ none).2 { entityName := "Invoice", tableName := "Invoice" }
      none ps ?_ (eq_ok_of_toOption hps)).mpr (Or.inl ?_)
    · exact ⟨eq_ok_of_toOption (by decide +kernel), rfl,
        ⟨none, eq_ok_of_toOption (by decide +kernel), rfl⟩,
        ⟨{}, eq_ok_of_toOption (by decide +kernel)⟩,
        ⟨none, eq_ok_of_toOption (by decide +kernel)⟩⟩
    · rw [hnames]
      decide

end MappedEntity

end OrmMapping
