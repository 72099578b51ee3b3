import OrmMapping.Proofs.Annotation.Texts
import OrmMapping.Proofs.Entity.Discriminator
import OrmMapping.Proofs.Entity.Vocabulary

/-!
# Both renditions of a class mean the same

A class can be told in the flat vocabulary and in the structured one. Both renditions are refused,
or they lead to the same entity but for the vocabulary itself, as long as nothing is left to the
defaults in which the vocabularies differ.

* `SilentBut`, `markedProperty`: the identifier of either rendition;
* `ToldClass.Explicit`: what has to be told;
* `readings_agree`: the facts of the class;
* `ToldClass.vocabularies_agree`: the entities.
-/

namespace OrmMapping

variable {a b : Annotations} {keys : List String} {key name id entity : String}
  {tag fallback : Option String}

/-! ## The identifier -/

/-- An annotation set with nothing in it but under some keys. -/
def SilentBut (keys : List String) (a : Annotations) : Prop :=
  ∀ key ∉ keys, a.entries.get? key = none

namespace SilentBut

/-- An empty set is silent under every key. -/
theorem of_nil (h : a.entries = []) : SilentBut [] a := fun key _ => by rw [h]; rfl

variable (h : SilentBut keys a) (hkey : key ∉ keys)

include h hkey

/-- A silent key has no text. -/
theorem text? : a.text? key = .ok none :=
  text?_of_absent (h key hkey)

/-- A silent key has no integer. -/
theorem integer? : a.integer? key = .ok none :=
  integer?_of_absent (h key hkey)

/-- A flag under a silent key is the `standard` one. -/
theorem flag (standard : Bool) : a.flag key standard = .ok standard :=
  flag_of_absent (h key hkey) standard

/-- A silent key is not there. -/
theorem has : a.has key = false :=
  has_of_absent (h key hkey)

/-- A silent key has no parameters. -/
theorem parameters : (a.parameters key).outcome = .ok [] :=
  parameters_of_absent (h key hkey)

/-- The set nested under a silent key is silent itself. -/
theorem nested (shorthand : String) : SilentBut [] (a.nested key shorthand) :=
  of_nil (nested_of_absent (h key hkey) shorthand)

end SilentBut

/-- What the marks of an identifier say, with the word for its kind. -/
def markedFacts (tag : Option String) (name : String) : PropertyFacts :=
  { name, kind := .id, fieldTag := tag }

/-- The identifier that the marks declare. -/
def markedProperty (tag : Option String) (name : String) : MappedProperty :=
  { name, kind := .id, type := { name := "integer", fieldTag := tag }, column := some { name },
    generator := some {} }

section Marks

variable (h : a.entries = idMarks)

include h

/-- The marks of an identifier stand under two keys and leave all others silent. -/
theorem silentBut_marks : SilentBut ["fieldtype", "id"] a := by
  intro key hkey
  rw [List.mem_cons, List.mem_singleton, not_or] at hkey
  rw [h, idMarks, Keyed.get?_cons, if_neg hkey.1, Keyed.get?_cons, if_neg hkey.2, Keyed.get?_nil]

/-- The flag `id` is among the marks. -/
theorem flag_id : a.flag "id" = .ok true := by
  rw [Annotations.flag, h]
  rfl

/-- The flat vocabulary takes the marks for an identifier, by the word `id` for its field type. -/
theorem readClassic_marks :
    (PropertyFacts.readClassic name a).outcome = .ok (some (markedFacts (some "id") name)) := by
  have hsilent := silentBut_marks h
  have htag : a.text? "fieldtype" = .ok (some "id") := by
    refine text?_of_str (by rw [h]; rfl) ?_ ?_ <;> decide +kernel
  have hkind : classicKind a = .ok .id := by
    have hname : FieldKind.ofName? (Text.lower "id") = some .id := by decide +kernel
    simp [classicKind, htag, hname, bind, Except.bind, pure, Except.pure]
  -- all other keys are silent, so the facts keep their standards
  have hcommon : classicCommon name .id a = .ok (markedFacts (some "id") name) := by
    simp [classicCommon, ColumnFacts.read, Annotations.sqlType?, Annotations.optionalFlag, htag,
      hsilent.text?, hsilent.integer?, hsilent.flag, hsilent.has, bind, Except.bind, pure,
      Except.pure, markedFacts]
  have hgenerator : (classicGenerator a).outcome = .ok {} := by
    simp [classicGenerator, classicOwnParams, Report.outcome_andThen, hsilent.text?,
      hsilent.parameters, bind, Except.bind, pure, Except.pure]
  simp [PropertyFacts.readClassic, classicWithGenerator, classicWithRelation,
    Report.outcome_andThen, hsilent.flag, flag_id h, hkind, hcommon, hgenerator, markedFacts, bind,
    Except.bind, pure, Except.pure]

/-- The structured vocabulary takes the marks for an identifier, by the flag `id`. -/
theorem readModern_marks :
    (PropertyFacts.readModern name a).outcome = .ok (some (markedFacts none name)) := by
  have hsilent := silentBut_marks h
  have hcolumn : SilentBut [] (a.nested "column") := hsilent.nested (by decide) _
  have hgenerated : SilentBut [] (a.nested "generatedvalue" "strategy") :=
    hsilent.nested (by decide) _
  have hkind : modernKind a = .ok .id := by
    simp [modernKind, flag_id h, bind, Except.bind, pure, Except.pure]
  have hcommon : modernCommon name .id a = .ok (markedFacts none name) := by
    simp [modernCommon, ColumnFacts.read, Annotations.sqlType?, Annotations.optionalFlag,
      modernSqlType?, modernUnique, modernNotNull, hsilent.text?, hsilent.flag, hsilent.has,
      hcolumn.text?, hcolumn.integer?, hcolumn.flag, hcolumn.has, bind, Except.bind, pure,
      Except.pure, markedFacts]
  have hgenerator : (modernGenerator a).outcome = .ok {} := by
    simp [modernGenerator, Report.outcome_andThen, hgenerated.text?, hgenerated.parameters, bind,
      Except.bind, pure]
  simp [PropertyFacts.readModern, modernWithGenerator, modernWithRelation,
    Report.outcome_andThen, hsilent.flag, hkind, hcommon, hgenerator, markedFacts, bind,
    Except.bind, pure, Except.pure]

end Marks

/-- The facts of the marks make the property `markedProperty`, whatever the word for its kind. -/
theorem ofFacts_marked :
    (MappedProperty.ofFacts (markedFacts tag name) a).outcome =
      .ok (markedProperty tag name) := by
  have hgenerator : (markedFacts tag name).generator? a = .ok (some {}) := by
    have hstrategy : Text.lower "increment" = "increment" := by decide +kernel
    simp [PropertyFacts.generator?, Generator.ofFacts, markedFacts, hstrategy, Except.map]
  unfold MappedProperty.ofFacts
  simp only [Report.bind_def, Report.outcome_andThen, Report.liftM_def, Report.outcome_ofExcept,
    hgenerator, MappedType.ofFacts_outcome]
  rfl

/-- The word that declares identifiers, where the vocabulary has one. -/
def Dialect.idTag : Dialect → Option String
  | .classic => some "id"
  | .modern => none

/-- Either vocabulary maps the marked declaration to the same property but for `Dialect.idTag`. -/
theorem ofDecl_marked (dialect : Dialect) :
    (MappedProperty.ofDecl ⟨id, foldEntries idMarks⟩ dialect entity).outcome =
      .ok (some (markedProperty dialect.idTag id)) := by
  have hmarks : foldEntries idMarks = idMarks := by decide +kernel
  have hread : (PropertyFacts.read id dialect ⟨idMarks, entity, some id⟩).outcome =
      .ok (some (markedFacts dialect.idTag id)) := by
    cases dialect with
    | classic => exact readClassic_marks rfl
    | modern => exact readModern_marks rfl
  rw [hmarks]
  refine Report.outcome_andThen_eq_ok.mpr ⟨_, hread, ?_⟩
  exact Report.outcome_andThen_eq_ok.mpr ⟨_, ofFacts_marked, rfl⟩

/-- The one property of either rendition takes the place of its identifier. -/
theorem ofDecls_marked (dialect : Dialect) :
    (PropertyPlaces.ofDecls dialect a [⟨id, foldEntries idMarks⟩]).outcome =
      .ok { ids := [markedProperty dialect.idTag id] } := by
  refine addDecls_eq_ok_iff.mpr ⟨[markedProperty dialect.idTag id], ?_, ?_, rfl⟩
  · exact mappedDecls_cons_eq_ok_iff.mpr ⟨_, [], ofDecl_marked dialect, rfl, rfl⟩
  · exact freshNames_singleton.mpr (by simp)

/-! ## What has to be told -/

/-- Folding the keys of a value does not change whether it is blank. -/
theorem isBlank_foldKeys (v : Value) : v.foldKeys.isBlank = v.isBlank := by
  cases v <;> rfl

/-- Folding the keys of a value does not change whether a text can be read of it. -/
theorem isReadable_foldKeys (v : Value) : v.foldKeys.isReadable = v.isReadable := by
  cases v with
  | list items =>
    rw [Value.foldKeys_list, Value.isReadable, Value.isReadable, List.any_map]
    exact congrArg (items.any ·) (funext fun item => congrArg not (isBlank_foldKeys item))
  | null => rfl
  | bool b => rfl
  | int n => rfl
  | float x => rfl
  | str s => rfl
  | map entries => rfl

/-- Nothing is left to the defaults in which the vocabularies differ: `lazy` is told, the set of the
discriminator is not empty, and what is told of the cache comes with a use. -/
structure ToldClass.Explicit (told : ToldClass) : Prop where
  lazy : (told.values .lazy).isSome = true
  discriminator : told.discriminator ≠ some []
  cache : (∃ fact : ClassFact, fact.place = .cache ∧ (told.values fact).isSome = true) →
    ∃ use, told.values .cacheUse = some use ∧ use.isReadable = true

/-! ## A discriminator in a nested set -/

/-- What a nested set tells of a discriminator. -/
def nestedDiscriminator (inner : Annotations) : Except MappingError Discriminator := do
  let value ← inner.text? "value"
  let column ← inner.firstText? ["column", "name"]
  let type ← inner.text? "type"
  let formula ← inner.text? "formula"
  let force ← inner.flag "force"
  let insert ← inner.flag "insert" true
  return { value, column, type, formula, force, insert }

/-- In the structured vocabulary a discriminator is what the nested set tells, if there is one. -/
theorem modernDiscriminator_eq :
    modernDiscriminator b =
      if b.has "discriminator" then (nestedDiscriminator (discriminatorSet b)).map some
      else .ok none := by
  have hset : b.nested "discriminator" "value" = discriminatorSet b := rfl
  unfold modernDiscriminator nestedDiscriminator
  rw [hset]
  cases b.has "discriminator" with
  | false => rfl
  | true =>
    simp only [map_bind_eq]
    rfl

section NestedDiscriminator

variable (hflat : ∀ fact : DiscriminatorFact, a.entries.get? fact.flatKey = none)

include hflat

/-- Without flat keys a discriminator is passed over exactly when the nested set is empty. -/
theorem passesOver_of_absent : passesOver a = (discriminatorSet a).entries.isEmpty := by
  have hcolumn : a.has "discriminatorcolumn" = false := has_of_absent (hflat .column)
  have hvalue : a.has "discriminatorvalue" = false := has_of_absent (hflat .value)
  rw [passesOver, hcolumn, hvalue, Bool.not_false, Bool.and_true, Bool.and_true]

/-- Without flat keys `toldDiscriminator` reads nothing but the nested set, as `nestedDiscriminator`
does, so equal sets lead to the same. -/
theorem toldDiscriminator_agree {inner inner' : Annotations}
    (h : ∀ key, SameEntry inner key inner' key) :
    Agree Eq (toldDiscriminator inner a) (nestedDiscriminator inner') := by
  have htext : ∀ fact : DiscriminatorFact, ∀ key,
      Agree Eq (nestedOrFlat inner [key] a fact.flatKey) (inner'.text? key) := by
    intro fact key
    rw [nestedOrFlat_of_absent (hflat fact), firstText?_of_absent (by simp)]
    exact text?_agree (h key)
  -- the column is the one fact that the nested set may have under two keys
  have hcolumn : Agree Eq (nestedOrFlat inner ["column", "name"] a "discriminatorcolumn")
      (inner'.firstText? ["column", "name"]) := by
    have hnested : nestedOrFlat inner ["column", "name"] a "discriminatorcolumn" =
        inner.firstText? ["column", "name"] := nestedOrFlat_of_absent (hflat .column)
    rw [hnested]
    exact firstText?_agree fun key _ => h key
  have hflag : ∀ fact : DiscriminatorFact, ∀ standard,
      Agree Eq (flagInEither inner a fact standard) (inner'.flag fact.nestedKey standard) := by
    intro fact standard
    rw [flagInEither_of_absent (hflat fact)]
    exact flag_agree (h _) standard
  refine .bindEq (htext .value "value") fun value => .bindEq hcolumn fun column => ?_
  refine .bindEq (htext .type "type") fun type => ?_
  refine .bindEq (htext .formula "formula") fun formula => ?_
  refine .bindEq (hflag .force false) fun force => .bindEq (hflag .insert true) fun insert => ?_
  exact .refl _

end NestedDiscriminator

/-! ## Where the facts stand -/

namespace ToldClass

variable {told : ToldClass} (ha : a.entries = told.classicEntries)
  (hb : b.entries = told.modernEntries)

include ha in
/-- A fact stands under its flat key in the one rendition, and in the set that has it in the
other. -/
theorem same_nested {set : Annotations} (fact : ClassFact)
    (hset : set.entries = told.setAt fact.place) : SameEntry a fact.flatKey set fact.nestedKey := by
  rw [SameEntry, ha, hset, get?_setAt]
  exact get?_classic_fact fact

include ha hb

/-- A fact on the class itself stands under its key in both. -/
theorem same_own (fact : ClassFact) (hplace : fact.place = .own) :
    SameEntry a fact.flatKey b fact.nestedKey := by
  rw [SameEntry, ha, hb, get?_modern_own hplace]
  exact get?_classic_fact fact

/-- The set of the discriminator stands under the same key in both renditions. -/
theorem same_discriminator : SameEntry a "discriminator" b "discriminator" := by
  rw [SameEntry, ha, hb, get?_discriminator.1, get?_discriminator.2]

/-! ## Facts -/

/-- Whether rows may change is read as it is told: by the flag `readonly` in the one rendition, by
the presence of `immutable` in the other. -/
theorem immutable_eq :
    a.flag "readonly" = .ok told.immutable ∧ b.has "immutable" = told.immutable := by
  rw [Annotations.flag, Annotations.has, Keyed.has, ha, hb, get?_immutableMark.1,
    get?_immutableMark.2, immutableMark]
  cases told.immutable <;> exact ⟨rfl, rfl⟩

/-- A discriminator is a nested set in both renditions, and is read alike. `h` keeps it from being
empty, which only the flat vocabulary passes over. -/
theorem discriminators_agree (h : told.Explicit) :
    Agree Eq (classicDiscriminator a) (modernDiscriminator b) := by
  have hflat : ∀ fact : DiscriminatorFact, a.entries.get? fact.flatKey = none := by
    intro fact
    have hforeign : ∀ fact ∈ DiscriminatorFact.all, fact.flatKey ∉ classicKeys := by
      decide +kernel
    rw [ha]
    exact get?_classic_of_not_mem (hforeign fact (by cases fact <;> decide))
  have hsame := same_discriminator ha hb
  have hentries : a.entries.get? "discriminator" = _ := ha ▸ get?_discriminator.1
  have hset : (discriminatorSet a).entries = Annotations.nestedEntries "value"
      ((told.discriminator.map fun inner => .map (foldEntries inner)).getD .null) :=
    congrArg (fun value => Annotations.nestedEntries "value" (Option.getD value .null)) hentries
  have hhas : b.has "discriminator" = told.discriminator.isSome := by
    rw [← hsame.has, Annotations.has, Keyed.has, hentries, Option.isSome_map]
  rw [classicDiscriminator_eq, modernDiscriminator_eq, passesOver_of_absent hflat, hset, hhas]
  -- without a set there is no discriminator in either rendition
  cases hd : told.discriminator with
  | none => exact .refl _
  | some inner =>
    have hne : (foldEntries inner).isEmpty = false :=
      List.isEmpty_eq_false_iff.mpr (foldEntries_ne_nil fun heq => h.discriminator (heq ▸ hd))
    simp only [Option.map_some, Option.getD_some, Annotations.nestedEntries, hne,
      Bool.false_eq_true, if_false, Option.isSome_some, if_true]
    exact (toldDiscriminator_agree hflat (nested_same hsame "value")).map some

/-- The cache is read alike. By `h` there is a use that says something: without one the flat
vocabulary passes the cache over, and the structured one refuses it. -/
theorem caches_agree (h : told.Explicit) : Agree Eq (classicCache a) (modernCache b) := by
  have hhas : b.has "cache" = true ↔ ∃ fact : ClassFact, fact.place = .cache ∧
      (told.values fact).isSome = true := by
    rw [Annotations.has, Keyed.has, hb]
    exact isSome_cache
  have huse : a.entries.get? "cacheuse" = (told.values .cacheUse).map Value.foldKeys :=
    ha ▸ get?_classic_fact .cacheUse
  unfold classicCache modernCache
  -- the nested set is there exactly when something is told of the cache
  cases hcache : b.has "cache" with
  | false =>
    have hnone : told.values .cacheUse = none := by
      rw [← Option.not_isSome_iff_eq_none]
      intro hsome
      rw [hhas.mpr ⟨.cacheUse, rfl, hsome⟩] at hcache
      cases hcache
    rw [hnone] at huse
    exact .skip (text?_of_absent huse) (.refl _)
  | true =>
    obtain ⟨use, hvalue, hreadable⟩ := h.cache (hhas.mp hcache)
    have hset : (b.nested "cache" "strategy").entries = told.setAt .cache := nested_cache hb
    have husage : ∀ key ∈ ["usage"], (b.nested "cache" "strategy").entries.get? key = none := by
      simp only [List.forall_mem_singleton, hset]
      exact get?_setAt_of_not_mem (by decide)
    have hread : a.text? "cacheuse" ≠ .ok none := by
      have huseValue : a.value "cacheuse" = use.foldKeys := by
        rw [Annotations.value, huse, hvalue]
        rfl
      intro hnone
      have hsilent := text?_eq_none_iff.mp hnone
      rw [huseValue, isReadable_foldKeys, hreadable] at hsilent
      cases hsilent
    simp only [Bool.not_true, Bool.false_eq_true, if_false]
    rw [firstText?_of_absent husage]
    refine (text?_agree (same_nested ha .cacheUse hset)).known.bind ?_
    rintro usage _ ⟨rfl, husage⟩
    cases usage with
    | none => exact absurd husage hread
    | some usage =>
      refine .bindEq (text?_agree (same_nested ha .cacheRegion hset)) fun region => ?_
      refine .bindEq (text?_agree (same_nested ha .cacheIncluded hset)) fun included => ?_
      exact .refl _

/-- The facts of the class are read alike. By `h` the flag `lazy` is told, which has different
standards in the two vocabularies. -/
theorem facts_agree (h : told.Explicit) :
    Agree Eq (ClassFacts.readClassic name a) (ClassFacts.readModern name b) := by
  have own : ∀ fact : ClassFact, fact.place = .own → SameEntry a fact.flatKey b fact.nestedKey :=
    same_own ha hb
  have htable : (b.nested "table").entries = told.setAt .table := nested_table hb
  have hlazy : b.has "lazy" = true := by
    have hfact : b.has (ClassFact.nestedKey .lazy) = true := by
      rw [Annotations.has, Keyed.has, hb, get?_modern_own rfl, Option.isSome_map]
      exact h.lazy
    exact hfact
  -- the two readers take the facts in the same order
  unfold ClassFacts.readClassic ClassFacts.readModern
  refine .bindEq (discriminators_agree ha hb h) fun discriminator => ?_
  refine .bindEq (caches_agree ha hb h) fun cache => ?_
  refine .bindEq (text?_agree (same_nested ha .table htable)) fun table => ?_
  refine .bindEq (text?_agree (same_nested ha .schema htable)) fun schema => ?_
  refine .bindEq (text?_agree (same_nested ha .catalog htable)) fun catalog => ?_
  refine .skip (immutable_eq ha hb).1 ?_
  dsimp only
  rw [(immutable_eq ha hb).2, flag_of_present hlazy true false]
  refine .bindEq (flag_agree (own .lazy rfl)) fun lazy => ?_
  refine .bindEq (integer?_agree (own .batchSize rfl)) fun batchSize => ?_
  refine .bindEq (text?_agree (own .rowId rfl)) fun rowId => ?_
  refine .bindEq (text?_agree (own .optimisticLock rfl)) fun optimisticLock => ?_
  refine .bindEq (text?_agree (own .condition rfl)) fun condition => ?_
  exact .refl _

/-- The flags for updates are read alike. -/
theorem flags_agree : Agree Eq (UpdateFlags.read a) (UpdateFlags.read b) := by
  have own : ∀ fact : ClassFact, fact.place = .own → SameEntry a fact.flatKey b fact.nestedKey :=
    same_own ha hb
  refine .bindEq (flag_agree (own .dynamicInsert rfl)) fun dynamicInsert => ?_
  refine .bindEq (flag_agree (own .dynamicUpdate rfl)) fun dynamicUpdate => ?_
  refine .bindEq (flag_agree (own .selectBeforeUpdate rfl)) fun selectBeforeUpdate => ?_
  exact .refl _

end ToldClass

/-! ## Entities -/

/-- An entity without what shows the vocabulary in which it was told. -/
def MappedEntity.untold (e : MappedEntity) : MappedEntity :=
  { e with
    dialect := .modern
    ids := e.ids.map (·.untagged)
    properties := e.properties.map (·.untagged)
    version := e.version.map (·.untagged) }

namespace ToldClass

variable (told : ToldClass) (name id : String) (fallback : Option String)

/-- The flat rendition has the mark of the flat vocabulary. -/
theorem dialect_classic : (told.classic name id).dialect = .classic := by
  have hmarker : told.classicEntries.get? Dialect.classicMarker = _ :=
    get?_classic List.mem_cons_self
  have hhas : told.classicEntries.has Dialect.classicMarker = true := by
    rw [Keyed.has, hmarker]
    rfl
  exact if_pos hhas

/-- The structured rendition has no such mark. -/
theorem dialect_modern : (told.modern name id).dialect = .modern := by
  have hmarker : told.modernEntries.get? Dialect.classicMarker = none :=
    get?_modern_of_not_mem (by decide)
  have hhas : ¬ told.modernEntries.has Dialect.classicMarker = true := by
    rw [Keyed.has, hmarker]
    simp
  exact if_neg hhas

/-- The flat rendition is named by the last segment of `name`. -/
theorem className_classic : (told.classic name id).className = Text.lastSegment name := rfl

/-- The structured rendition is named by the last segment of `name` too. -/
theorem className_modern : (told.modern name id).className = Text.lastSegment name := rfl

/-- Both renditions have the same entity name, or it is refused in both. -/
theorem entityNames_agree :
    Agree Eq (told.classic name id).entityName (told.modern name id).entityName := by
  unfold Descriptor.entityName
  rw [dialect_classic, dialect_modern, className_classic, className_modern]
  exact .bindEq (text?_agree (same_nested rfl .entityName (nested_entity rfl))) fun _ => .refl _

/-- Both renditions declare the same table, or it is refused in both. -/
theorem declaredTables_agree :
    Agree Eq (told.classic name id).declaredTable (told.modern name id).declaredTable := by
  unfold Descriptor.declaredTable
  rw [dialect_classic, dialect_modern]
  exact text?_agree (same_nested rfl .table (nested_table rfl))

/-- Both renditions have the same datasource, or it is refused in both. -/
theorem datasources_agree :
    Agree Eq ((told.classic name id).datasource fallback)
      ((told.modern name id).datasource fallback) :=
  .bindEq (text?_agree (same_own rfl rfl .datasource rfl)) fun _ => .refl _

variable {told}

/-- The facts of either rendition, with the entity name read first, are the same or refused in
both. -/
theorem readings_agree (h : told.Explicit) :
    Agree Eq (ClassFacts.read (told.classic name id)) (ClassFacts.read (told.modern name id)) := by
  unfold ClassFacts.read
  refine .bindEq (told.entityNames_agree name id) fun entityName => ?_
  rw [dialect_classic, dialect_modern]
  exact facts_agree rfl rfl h

/-- Whatever is told of a class, explicitly where the vocabularies have different defaults, the two
renditions are both refused, or lead to entities that are equal but for the vocabulary. -/
theorem vocabularies_agree (h : told.Explicit) :
    Agree (fun e e' => e.untold = e'.untold)
      (MappedEntity.ofDescriptor (told.classic name id) fallback).outcome
      (MappedEntity.ofDescriptor (told.modern name id) fallback).outcome := by
  have hplacement : ∀ entries a D,
      (Placement.of? (markedClass entries name id) a D).outcome = .ok none := fun _ _ _ => rfl
  unfold MappedEntity.ofDescriptor
  refine .skipReport rfl (.skipReportRight rfl ?_)
  refine .reportEq (readings_agree name id h) fun facts => ?_
  dsimp only
  -- a class that extends no other has no place under a parent, and needs no key
  refine .skipReport (hplacement _ _ _) (.skipReportRight (hplacement _ _ _) ?_)
  refine .reportEq (told.declaredTables_agree name id) fun declared => ?_
  refine .skipReport rfl (.skipReportRight rfl ?_)
  rw [dialect_classic, dialect_modern]
  refine .skipReport (ofDecls_marked .classic) (.skipReportRight (ofDecls_marked .modern) ?_)
  refine .skipReport rfl (.skipReportRight rfl ?_)
  refine .reportEq (flags_agree rfl rfl) fun flags => ?_
  refine .reportEq (told.datasources_agree name id fallback) fun datasource => ?_
  have hclassic : (told.classic name id).isExtended = false := rfl
  have hmodern : (told.modern name id).isExtended = false := rfl
  rw [hclassic, hmodern]
  exact .given rfl

/-- A car whose schema is a list, with a cache and a discriminator, and nothing to be changed. -/
def toldCar : ToldClass where
  values
    | .entityName => some (.str " Car ")
    | .schema => some (.list [.str "motor", .null, .str "pool"])
    | .lazy => some .null
    | .batchSize => some (.str "25")
    | .dynamicInsert => some (.str "yes")
    | .cacheUse => some (.list [.str "read-only"])
    | .cacheRegion => some (.int 7)
    | _ => none
  immutable := true
  discriminator := some [("Value", .str "car"), ("NAME", .str "kind")]

/-- The car is told explicitly, and both renditions of it are mapped to the same entity. -/
theorem vocabularies_agree_toldCar :
    toldCar.Explicit ∧
    Agree (fun e e' => e.untold = e'.untold)
      (MappedEntity.ofDescriptor (toldCar.classic "garage.Car" "id") none).outcome
      (MappedEntity.ofDescriptor (toldCar.modern "garage.Car" "id") none).outcome ∧
    (MappedEntity.ofDescriptor (toldCar.modern "garage.Car" "id") none).outcome.toOption.isSome =
      true := by
  have hexplicit : toldCar.Explicit :=
    ⟨rfl, by decide, fun _ => ⟨.list [.str "read-only"], rfl, rfl⟩⟩
  exact ⟨hexplicit, vocabularies_agree "garage.Car" "id" none hexplicit, by decide +kernel⟩

end ToldClass

end OrmMapping
