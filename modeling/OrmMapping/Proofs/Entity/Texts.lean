import OrmMapping.Proofs.Entity.Discriminator
import OrmMapping.Proofs.Entity.Identity
import OrmMapping.Proofs.Entity.Soundness
import OrmMapping.Proofs.Property.Texts

/-!
# The texts of an entity

A text that is read of annotations has no white space around it, and there is none rather than an
empty one. That stays so in every part of a mapped class. So the rules that ask whether a text is
there and those that ask whether it is empty come to the same.

* `ClassFacts.texts`, `ClassFacts.filled_of_read`: what is read of a class as a whole;
* `MappedEntity.texts`, `MappedEntity.filled_of_ofDescriptor`: all texts of a mapped class;
* `MappedEntity.texts_filled`: from single annotations to a mapped class.
-/

namespace OrmMapping

variable {a inner : Annotations} {key name : String} {keys : List String} {text : Option String}
  {d : Descriptor} {fallback : Option String} {e : MappedEntity} {facts : ClassFacts}

/-! ## Class-level facts -/

/-- The texts of a discriminator. -/
def Discriminator.texts (discriminator : Discriminator) : List (Option String) :=
  [discriminator.value, discriminator.column, discriminator.type, discriminator.formula]

/-- The texts of a cache. -/
def Cache.texts (cache : Cache) : List (Option String) :=
  [some cache.usage, cache.region, cache.included]

/-- The texts of a class but for its names. -/
def ClassFacts.texts (facts : ClassFacts) : List (Option String) :=
  [facts.schema, facts.catalog, facts.rowId, facts.optimisticLock, facts.condition] ++
  (facts.discriminator.toList.flatMap (·.texts) ++ facts.cache.toList.flatMap (·.texts))

/-- A text of a discriminator is filled, whether it is nested or flat. -/
theorem filled_of_nestedOrFlat (h : nestedOrFlat inner keys a key = .ok text) : Filled text := by
  obtain ⟨first, hfirst, h⟩ := bind_eq_ok.mp h
  cases first with
  | none => exact filled_of_text? h
  | some s =>
    cases h
    exact filled_of_firstText? hfirst

/-- The texts of a discriminator that is told in `inner` or in `a` are filled. -/
theorem Discriminator.ToldIn.filled {discriminator : Discriminator}
    (h : discriminator.ToldIn inner a) : AllFilled discriminator.texts := by
  simp only [Discriminator.texts, allFilled_cons, allFilled_nil, and_true]
  exact ⟨filled_of_nestedOrFlat h.value, filled_of_nestedOrFlat h.column,
    filled_of_nestedOrFlat h.type, filled_of_nestedOrFlat h.formula⟩

/-- The texts of the discriminator that `classicDiscriminator` gives are filled. -/
theorem filled_of_classicDiscriminator {discriminator : Option Discriminator}
    (h : classicDiscriminator a = .ok discriminator) :
    ∀ x ∈ discriminator, AllFilled x.texts := by
  rw [classicDiscriminator_eq] at h
  split at h
  · cases h
    simp
  · -- a discriminator that is not passed over is told in one of the two places
    obtain ⟨told, htold, rfl⟩ := map_eq_ok.mp h
    rintro _ ⟨⟩
    exact (Discriminator.toldIn_of_told htold).filled

/-- The texts of the discriminator that `modernDiscriminator` gives are filled. -/
theorem filled_of_modernDiscriminator {discriminator : Option Discriminator}
    (h : modernDiscriminator a = .ok discriminator) :
    ∀ x ∈ discriminator, AllFilled x.texts := by
  rintro x ⟨⟩
  have hread := Discriminator.nestedIn_of_modern h
  simp only [Discriminator.texts, allFilled_cons, allFilled_nil, and_true]
  exact ⟨filled_of_text? hread.value, filled_of_firstText? hread.column,
    filled_of_text? hread.type, filled_of_text? hread.formula⟩

/-- Both vocabularies read what there is beside the use of a cache in the same steps. -/
theorem filled_of_cacheSteps {usage regionKey includedKey : String} {cache : Option Cache}
    (husage : Filled (some usage))
    (h : (do
      let region ← a.text? regionKey
      let included ← a.text? includedKey
      return some { usage, region, included } : Except MappingError (Option Cache)) = .ok cache) :
    ∀ x ∈ cache, AllFilled x.texts := by
  simp only [bind_eq_ok, pure_eq_ok] at h
  obtain ⟨_, hregion, _, hincluded, rfl⟩ := h
  rintro _ ⟨⟩
  simp only [Cache.texts, allFilled_cons, allFilled_nil, and_true]
  exact ⟨husage, filled_of_text? hregion, filled_of_text? hincluded⟩

/-- The texts of the cache that `classicCache` gives are filled. -/
theorem filled_of_classicCache {cache : Option Cache} (h : classicCache a = .ok cache) :
    ∀ x ∈ cache, AllFilled x.texts := by
  obtain ⟨usage, husage, h⟩ := bind_eq_ok.mp h
  cases usage with
  | none =>
    cases h
    simp
  | some usage => exact filled_of_cacheSteps (filled_of_text? husage) h

/-- The texts of the cache that `modernCache` gives are filled; without a use of it there is a
fault. -/
theorem filled_of_modernCache {cache : Option Cache} (h : modernCache a = .ok cache) :
    ∀ x ∈ cache, AllFilled x.texts := by
  unfold modernCache at h
  split at h
  · cases h
    simp
  · obtain ⟨usage, husage, h⟩ := bind_eq_ok.mp h
    cases usage with
    | none => cases h
    | some usage => exact filled_of_cacheSteps (filled_of_firstText? husage) h

/-- The texts of a class that stand in the flat set `a` are filled. -/
theorem ClassFacts.ClassicFrom.filled (h : facts.ClassicFrom name a) : AllFilled facts.texts := by
  simp only [ClassFacts.texts, allFilled_append, allFilled_cons, allFilled_nil, and_true]
  exact ⟨⟨filled_of_text? h.schema, filled_of_text? h.catalog, filled_of_text? h.rowId,
    filled_of_text? h.optimisticLock, filled_of_text? h.condition⟩,
    allFilled_flatMap_toList (filled_of_classicDiscriminator h.discriminator),
    allFilled_flatMap_toList (filled_of_classicCache h.cache)⟩

/-- The texts of a class that stand in the structured set `a` are filled. -/
theorem ClassFacts.ModernFrom.filled (h : facts.ModernFrom name a) : AllFilled facts.texts := by
  simp only [ClassFacts.texts, allFilled_append, allFilled_cons, allFilled_nil, and_true]
  exact ⟨⟨filled_of_text? h.schema, filled_of_text? h.catalog, filled_of_text? h.rowId,
    filled_of_text? h.optimisticLock, filled_of_text? h.condition⟩,
    allFilled_flatMap_toList (filled_of_modernDiscriminator h.discriminator),
    allFilled_flatMap_toList (filled_of_modernCache h.cache)⟩

/-- Whichever vocabulary a class is declared in, the texts that are read of it are absent or say
something. -/
theorem ClassFacts.filled_of_read (h : ClassFacts.read d = .ok facts) : AllFilled facts.texts := by
  obtain ⟨name, -, h⟩ := bind_eq_ok.mp h
  cases hdialect : d.dialect with
  | classic =>
    rw [hdialect] at h
    exact (classicFrom_of_read h).filled
  | modern =>
    rw [hdialect] at h
    exact (modernFrom_of_read h).filled

/-! ## Entities -/

namespace MappedEntity

/-- All texts of an entity but for names, its datasource and its place under a parent. -/
def texts (e : MappedEntity) : List (Option String) :=
  [e.schema, e.catalog, e.rowId, e.optimisticLock, e.condition] ++
  (e.discriminator.toList.flatMap (·.texts) ++ e.cache.toList.flatMap (·.texts)) ++
  e.allProperties.flatMap (·.texts)

/-- Every text of a mapped class is absent or says something. -/
theorem filled_of_ofDescriptor (h : (ofDescriptor d fallback).outcome = .ok e) :
    AllFilled e.texts := by
  -- the texts of the properties, each from its own declaration
  have hproperties : AllFilled (e.allProperties.flatMap (·.texts)) := by
    intro text htext
    obtain ⟨p, hp, htext⟩ := List.mem_flatMap.mp htext
    exact forall_allProperties_of_ofDescriptor (fun _ _ _ _ => MappedProperty.filled_of_ofDecl)
      h p hp text htext
  obtain ⟨parts, hread, rfl⟩ := ofDescriptor_eq_ok_iff.mp h
  exact allFilled_append.mpr ⟨ClassFacts.filled_of_read hread.facts, hproperties⟩

/-- A text of an annotation is refused for a map, or there is none, or it is not empty and has no
white space around it. So every text that is read of a property, whichever vocabulary declares it,
and every text of a mapped class is absent or says something, and to ask whether it is there is to
ask whether it is empty. -/
theorem texts_filled :
    (∀ (a : Annotations) (key : String),
      (∀ fault, a.text? key = .error fault ↔
        (∃ entries, a.value key = .map entries) ∧ fault = a.malformed (.notScalar key)) ∧
      (∀ s, a.text? key = .ok (some s) → s ≠ "" ∧ Text.trim s = s) ∧
      ∀ text, a.text? key = .ok text → nonEmpty? text = text) ∧
    (∀ name dialect a facts, (PropertyFacts.read name dialect a).outcome = .ok (some facts) →
      ∀ text ∈ facts.texts, Filled text ∧ nonEmpty? text = text) ∧
    ∀ d fallback e, (ofDescriptor d fallback).outcome = .ok e →
      ∀ text ∈ e.texts, Filled text ∧ nonEmpty? text = text := by
  have hdecided : ∀ {texts : List (Option String)}, AllFilled texts →
      ∀ text ∈ texts, Filled text ∧ nonEmpty? text = text :=
    fun h text htext => ⟨h text htext, nonEmpty?_of_filled (h text htext)⟩
  refine ⟨fun a key => ⟨fun _ => text?_eq_error_iff, fun s h => ?_, fun text h => ?_⟩,
    fun _ _ _ _ h => hdecided (PropertyFacts.filled_of_read h),
    fun _ _ _ h => hdecided (filled_of_ofDescriptor h)⟩
  · exact ⟨ne_empty_of_not_blank (isBlank_of_text? h), trim_of_text? h⟩
  · exact nonEmpty?_of_filled (filled_of_text? h)

/-- A label that is computed, with an unsaved value of blanks. -/
def labelDecl : PropertyDecl where
  name := "label"
  annotations := [("formula", .list [.str " ", .str " upper(name) "]),
    ("unsavedvalue", .list [.null, .str "\t"])]

/-- Shelves, with more blanks than texts. -/
def shelfDescriptor : Descriptor where
  own := {
    name := "Shelf"
    annotations := [("persistent", .null), ("schema", .list [.str " ", .null]),
      ("where", .list [.str "", .str " room = 1 "]), ("cacheuse", .str " read-only "),
      ("cachename", .str "  "), ("discriminatorvalue", .bool false)]
    properties := [{ name := "id", annotations := [("fieldtype", .str "id")] }, labelDecl] }

/-- Shelves lose the texts that are blank, and keep the others without the blanks around them. -/
theorem texts_filled_shelf :
    (shelfDescriptor.classAnnotations.text? "where" = .ok (some "room = 1") ∧
      "room = 1" ≠ "" ∧ Text.trim "room = 1" = "room = 1") ∧
    (∃ facts, (PropertyFacts.read "label" .classic (labelDecl.annotationSet "Shelf")).outcome =
        .ok (some facts) ∧ facts.formula = some "upper(name)" ∧ facts.unsavedValue = none ∧
      ∀ text ∈ facts.texts, Filled text ∧ nonEmpty? text = text) ∧
    ∃ e, (ofDescriptor shelfDescriptor none).outcome = .ok e ∧ e.schema = none ∧
      e.condition = some "room = 1" ∧ e.cache = some { usage := "read-only" } ∧
      e.properties.map (·.formula) = [some "(upper(name))"] ∧
      ∀ text ∈ e.texts, Filled text ∧ nonEmpty? text = text := by
  obtain ⟨htexts, hfacts, hentities⟩ := texts_filled
  have hwhere : shelfDescriptor.classAnnotations.text? "where" = .ok (some "room = 1") :=
    eq_ok_of_toOption (by decide +kernel)
  refine ⟨⟨hwhere, (htexts _ _).2.1 _ hwhere⟩, ?_, ?_⟩
  · have hread : (PropertyFacts.read "label" .classic
        (labelDecl.annotationSet "Shelf")).outcome.toOption.map
          (·.map fun facts => (facts.formula, facts.unsavedValue)) =
            some (some (some "upper(name)", none)) := by
      decide +kernel
    obtain ⟨read, hread, hparts⟩ := Option.map_eq_some_iff.mp hread
    obtain ⟨facts, rfl, hparts⟩ := Option.map_eq_some_iff.mp hparts
    obtain ⟨hformula, hunsaved⟩ := Prod.mk.inj (Option.some.inj hparts)
    have hread := eq_ok_of_toOption hread
    exact ⟨facts, hread, hformula, hunsaved, hfacts _ _ _ _ hread⟩
  · have hmapped : (ofDescriptor shelfDescriptor none).outcome.toOption.map (fun e =>
        (e.schema, e.condition, e.cache, e.properties.map (·.formula))) =
          some (none, some "room = 1", some { usage := "read-only" },
            [some "(upper(name))"]) := by
      decide +kernel
    obtain ⟨e, he, hparts⟩ := Option.map_eq_some_iff.mp hmapped
    obtain ⟨hschema, hcondition, hcache, hformulas⟩ := by simpa only [Prod.mk.injEq] using hparts
    have he := eq_ok_of_toOption he
    exact ⟨e, he, hschema, hcondition, hcache, hformulas, hentities _ _ _ he⟩

end MappedEntity

end OrmMapping
