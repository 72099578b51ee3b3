import OrmMapping.Proofs.Entity.PropertyPlaces
import OrmMapping.Proofs.Roster.Resolution

/-!
# What mapped entities have in common

The writer relies on what the mapping of a class has settled: that there is an identifier or a
parent, that no two properties have one name, that identifiers and versions are no relationships,
and that a subclass has the column that joins it to its parent wherever one is needed. Resolution
leaves all of this as it is.

* `MappedEntity.forall_allProperties_of_ofDescriptor`: what holds of all mapped declarations;
* `MappedEntity.Sound`: what the writer relies on;
* `MappedEntity.sound_of_ofDescriptor`: every mapped class has it;
* `MappedEntity.Yields`: the entities that a class comes to be written as;
* `MappedEntity.sound_of_yields`: they have it too.
-/

namespace OrmMapping

variable {p : MappedProperty} {ps : List MappedProperty} {d : Descriptor} {a : Annotations}
  {table entity : String} {placement : Option Placement} {fallback : Option String}
  {e e' : MappedEntity}

/-! ## Properties -/

/-- A coherent property that is not plain has no relationship. -/
theorem MappedProperty.Coherent.association_eq_none (h : p.Coherent) (hplain : p.isPlain = false) :
    p.association = none := by
  have hkind : ¬ ∃ k, p.kind = .association k := by
    rintro ⟨k, hk⟩
    rw [MappedProperty.isPlain, hk] at hplain
    cases hplain
  rw [← h.association] at hkind
  simpa using hkind

/-- Identifiers are not plain. -/
theorem isPlain_of_isId (h : p.isId = true) : p.isPlain = false := by
  have hkind : p.kind = .id := by simpa [MappedProperty.isId] using h
  rw [MappedProperty.isPlain, hkind]

/-- Versions are not plain. -/
theorem isPlain_of_isVersion (h : p.isVersion = true) : p.isPlain = false := by
  unfold MappedProperty.isVersion at h
  rcases (Bool.or_eq_true _ _).mp h with hkind | hkind
  · rw [MappedProperty.isPlain, eq_of_beq hkind]
  · rw [MappedProperty.isPlain, eq_of_beq hkind]

/-! ## Keys -/

/-- A placement that passes the check `requireKey` has a join column if it needs one. -/
theorem isSome_joinColumn_of_requireKey (h : requireKey a table placement = .ok ()) :
    ∀ p ∈ placement, p.needsKey table = true → p.joinColumn.isSome = true := by
  rintro p rfl hneeds
  unfold requireKey at h
  dsimp only at h
  split at h
  · cases h
  · next hkey => simpa [hneeds, Option.isSome_iff_ne_none] using hkey

namespace MappedEntity

/-! ## Entities -/

/-- Every property that a class maps is coherent. -/
theorem coherent_of_mem_mappedProperties (h : d.mappedProperties entity = .ok ps) :
    ∀ p ∈ ps, p.Coherent := by
  refine forall_mem_mappedProperties (fun decl dialect entity p hdecl => ?_) h
  obtain ⟨facts, hsound, hfacts⟩ := MappedProperty.exists_facts_of_ofDecl hdecl
  exact MappedProperty.coherent_of_ofFacts hsound hfacts

/-- All properties of an entity: its identifiers, its version and the others. -/
def allProperties (e : MappedEntity) : List MappedProperty :=
  e.ids ++ (e.version.toList ++ e.properties)

/-- What the writer relies on. -/
structure Sound (e : MappedEntity) : Prop where
  identified : e.isIdentified = true
  names : (e.allProperties.map (·.name)).Nodup
  identity : ∀ p ∈ e.ids ++ e.version.toList, p.association = none
  tags : ∀ p ∈ e.properties, ∀ r ∈ p.association, r.collectionTag = "map" ∨ r.collectionTag = "bag"
  value : ∀ p ∈ e.placement, p.discriminatorValue = e.discriminator.bind (·.value)
  key : ∀ p ∈ e.placement, p.needsKey e.tableName = true → p.joinColumn.isSome = true

/-- The plain properties of a sound entity have different names. -/
theorem Sound.nodup_properties (h : e.Sound) : (e.properties.map (·.name)).Nodup := by
  have hsublist : e.properties.Sublist e.allProperties :=
    (List.sublist_append_right _ _).trans (List.sublist_append_right _ _)
  exact h.names.sublist (hsublist.map _)

/-- The properties of an entity stand in order within those that a list `ps` has places for; later
versions are left out. -/
theorem sublist_allProperties (e : MappedEntity) (ps : List MappedProperty) :
    e.allProperties.Sublist
      (e.ids ++ (e.version.toList ++ (ps.filter (·.isVersion)).tail) ++ e.properties) := by
  rw [allProperties, List.append_assoc, List.append_assoc]
  refine (List.Sublist.refl _).append ((List.Sublist.refl _).append ?_)
  exact List.sublist_append_right _ _

/-- Every property of an entity that arranges `ps` is in `ps`. -/
theorem Arranges.mem_of_mem_allProperties (h : e.Arranges ps) (hp : p ∈ e.allProperties) :
    p ∈ ps :=
  h.all.subset ((sublist_allProperties e ps).subset hp)

/-- The plain properties are among all properties. -/
theorem mem_allProperties_of_mem_properties (hp : p ∈ e.properties) : p ∈ e.allProperties :=
  List.mem_append_right _ (List.mem_append_right _ hp)

/-- What holds of every mapped declaration holds of all properties of a mapped class. -/
theorem forall_allProperties_of_ofDescriptor {P : MappedProperty → Prop}
    (hP : ∀ decl dialect entity p,
      (MappedProperty.ofDecl decl dialect entity).outcome = .ok (some p) → P p)
    (h : (ofDescriptor d fallback).outcome = .ok e) : ∀ p ∈ e.allProperties, P p := by
  intro p hp
  obtain ⟨ps, hps, harranged⟩ := exists_arranges_of_ofDescriptor h
  exact forall_mem_mappedProperties hP hps p (harranged.mem_of_mem_allProperties hp)

/-- The properties of an entity that arranges `ps` have different names. -/
theorem Arranges.nodup_names (h : e.Arranges ps) : (e.allProperties.map (·.name)).Nodup := by
  -- they differ even without regard to case
  have hfolded : ((e.allProperties.map (·.name)).map Text.lower).Nodup := by
    rw [List.map_map]
    exact ((h.all.map _).nodup_iff.mpr h.names).sublist ((sublist_allProperties e ps).map _)
  exact hfolded.of_map

/-- In an arranged entity identifiers and the version are no relationships. -/
theorem Arranges.association_of_mem_identity (h : e.Arranges ps)
    (hcoherent : ∀ p ∈ ps, p.Coherent) : ∀ p ∈ e.ids ++ e.version.toList, p.association = none := by
  intro p hp
  rcases List.mem_append.mp hp with hid | hversion
  · rw [h.ids] at hid
    obtain ⟨hmem, hid⟩ := List.mem_filter.mp hid
    exact (hcoherent p hmem).association_eq_none (isPlain_of_isId hid)
  · rw [Option.mem_toList, h.version] at hversion
    exact (hcoherent p (List.mem_of_find?_eq_some hversion)).association_eq_none
      (isPlain_of_isVersion (List.find?_some hversion))

/-- Every mapped class has what the writer relies on. -/
theorem sound_of_ofDescriptor (h : (ofDescriptor d fallback).outcome = .ok e) : e.Sound := by
  obtain ⟨ps, hps, harranged⟩ := exists_arranges_of_ofDescriptor h
  have hcoherent := coherent_of_mem_mappedProperties hps
  constructor
  case identified => exact isIdentified_of_ofDescriptor h
  case names => exact harranged.nodup_names
  case identity => exact harranged.association_of_mem_identity hcoherent
  case tags =>
    -- only collections have tags, and these are settled where a relationship is mapped
    intro p hp
    exact forall_allProperties_of_ofDescriptor
      (fun _ _ _ _ => MappedProperty.collectionTag_of_ofDecl) h p
      (mem_allProperties_of_mem_properties hp)
  case value =>
    intro p hp
    obtain ⟨parent, -, hmade⟩ := placement_of_ofDescriptor h hp
    exact hmade.value
  case key =>
    obtain ⟨parts, hread, rfl⟩ := ofDescriptor_eq_ok_iff.mp h
    exact isSome_joinColumn_of_requireKey hread.key

/-- Resolution of the references, whatever it finds, keeps what the writer relies on. -/
theorem Sound.withReferents (h : e.Sound) (find : String → Option String) :
    (e.withReferents find).Sound := by
  have hnames : (e.withReferents find).allProperties.map (·.name) =
      e.allProperties.map (·.name) := by
    simp only [allProperties, MappedEntity.withReferents, List.map_append, List.map_map]
    rfl
  constructor
  case identified =>
    have hidentified := h.identified
    -- a placement with its referent is still a placement
    simpa [isIdentified, MappedEntity.withReferents] using hidentified
  case names => rw [hnames]; exact h.names
  case identity => exact h.identity
  case tags =>
    intro p' hp' r hr
    obtain ⟨p, hp, rfl⟩ := List.mem_map.mp hp'
    obtain ⟨a, ha, rfl⟩ := Option.map_eq_some_iff.mp hr
    exact h.tags p hp a ha
  case value =>
    intro p' hp'
    obtain ⟨p, hp, rfl⟩ := Option.map_eq_some_iff.mp hp'
    exact h.value p hp
  case key =>
    intro p' hp'
    obtain ⟨p, hp, rfl⟩ := Option.map_eq_some_iff.mp hp'
    exact h.key p hp

/-- A class comes to be written as this entity: the one that it is mapped to, whose references may
have been resolved. -/
def Yields (d : Descriptor) (fallback : Option String) (e : MappedEntity) : Prop :=
  ∃ mapped, (ofDescriptor d fallback).outcome = .ok mapped ∧
    (e = mapped ∨ ∃ r : Roster, r.resolve mapped = .ok e)

/-- Every entity that a class comes to be written as has what the writer relies on. -/
theorem sound_of_yields (h : Yields d fallback e) : e.Sound := by
  obtain ⟨mapped, hmapped, rfl | ⟨r, hresolved⟩⟩ := h
  · exact sound_of_ofDescriptor hmapped
  · obtain ⟨-, -, rfl⟩ := Roster.resolve_eq_ok_iff.mp hresolved
    exact (sound_of_ofDescriptor hmapped).withReferents _

end MappedEntity

end OrmMapping
