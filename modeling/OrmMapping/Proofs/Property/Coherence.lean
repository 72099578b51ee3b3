import OrmMapping.Proofs.Property.Reading
import OrmMapping.Proofs.Text.Lowering

/-!
# Mapped properties hang together

The parts of a mapped property are settled by separate rules: some look at the kind that was
declared, some at the kind that a foreign key or a link table made of it. Here stands what the parts
have to do with one another, for every declaration in either vocabulary.

* `Generator.Coherent`, `Association.Coherent`, `MappedProperty.Coherent`: what holds of the parts;
* `Generator.coherent_of_ofFacts`, `Association.coherent_of_ofFacts`: the rules for the parts;
* `MappedProperty.coherent_of_ofFacts`: the rules together;
* `MappedProperty.coherent_of_ofDecl`: every mapped declaration.
-/

namespace OrmMapping

variable {a : Annotations} {facts : PropertyFacts} {declared : AssociationKind}
  {generators : GeneratorFacts} {g : Generator} {r : Association} {p : MappedProperty}
  {decl : PropertyDecl} {dialect : Dialect} {entity : String}

/-! ## What hangs together -/

/-- The way identifiers are made is a lower-case text, and `select` knows its key. -/
structure Generator.Coherent (g : Generator) : Prop where
  notBlank : Text.isBlank g.strategy = false
  lowerCase : Text.lower g.strategy = g.strategy
  selectKey : g.strategy = "select" → g.selectKey.isSome = true

/-- What only collections have, only collections have; the facts that change a kind are not left
behind on the kind that they change. -/
structure Association.Coherent (r : Association) : Prop where
  tag : r.collectionTag = "map" ∨ r.collectionTag = "bag"
  mapKey : r.mapKey.isSome = true ↔ r.collectionTag = "map"
  toMany : r.mapKey.isSome ∨ r.element.isSome ∨ r.linkTable.isSome ∨ r.linkSchema.isSome ∨
    r.linkCatalog.isSome → r.kind.isToMany = true
  oneToOne : r.kind = .oneToOne → r.foreignKeyColumn = none
  oneToMany : r.kind = .oneToMany → r.linkTable = none

/-- How the parts of a mapped property hang together. -/
structure MappedProperty.Coherent (p : MappedProperty) : Prop where
  notCollection : p.kind ≠ .collection
  columnOrFormula : ¬ (p.column.isSome = true ∧ p.formula.isSome = true)
  association : p.association.isSome = true ↔ ∃ k, p.kind = .association k
  associationKind : ∀ r ∈ p.association, p.kind = .association r.kind
  associationParts : ∀ r ∈ p.association, r.Coherent
  generator : p.generator.isSome = true ↔ p.kind = .id
  generatorParts : ∀ g ∈ p.generator, g.Coherent
  column : p.association = none → p.formula = none → p.column.isSome = true
  noColumn : ∀ k, p.kind = .association k → k ≠ .manyToOne → p.column = none

/-! ## Parts -/

/-- If no declared strategy is blank, then the rule for generators makes a coherent one. -/
theorem Generator.coherent_of_ofFacts
    (hstrategy : ∀ s ∈ generators.strategy, Text.isBlank s = false)
    (h : Generator.ofFacts generators a = .ok g) : g.Coherent := by
  -- the standard strategy is not blank either
  have hdeclared : Text.isBlank (generators.strategy.getD "increment") = false := by
    cases hs : generators.strategy with
    | none => decide
    | some s => exact hstrategy s hs
  unfold Generator.ofFacts at h
  dsimp only at h
  split at h
  · cases h
  · next hkey =>
    cases h
    refine ⟨Text.isBlank_lower hdeclared, Text.lower_lower _, fun hselect => ?_⟩
    cases hnone : generators.selectKey with
    | none =>
      rw [hnone] at hkey
      exact absurd hselect (by simpa using hkey)
    | some key => rfl

/-- What the rules make of the facts of a relationship; all other parts are the facts as they
are. -/
structure Association.MadeFrom (r : Association) (facts : PropertyFacts)
    (declared : AssociationKind) (a : Annotations) : Prop where
  kind : r.kind = facts.associationKind declared
  unresolved : r.targetEntity = none
  foreignKeyColumn : r.foreignKeyColumn = facts.target.foreignKeyColumn
  tag : r.collectionTag = if r.mapKey.isSome then "map" else "bag"
  toMany : r.kind.isToMany = true → r.linkTable = facts.link.table ∧
    (mapKeyColumn facts a).outcome = .ok r.mapKey ∧
    (elementColumn facts a).outcome = .ok r.element
  toOne : r.kind.isToMany = false → r.mapKey = none ∧ r.element = none ∧ r.linkTable = none ∧
    r.linkSchema = none ∧ r.linkCatalog = none

/-- Inversion of `Association.ofFacts`: the parts that the proofs look at. -/
theorem Association.madeFrom_of_ofFacts
    (h : (Association.ofFacts facts declared a).outcome = .ok r) : r.MadeFrom facts declared a := by
  unfold Association.ofFacts at h
  dsimp only at h
  split at h
  · cases h
  · -- only a relationship with many ends has keys, values and a link table
    split at h
    · next hmany =>
      obtain ⟨mapKey, hmapKey, h⟩ := Report.outcome_andThen_eq_ok.mp h
      obtain ⟨element, helement, h⟩ := Report.outcome_andThen_eq_ok.mp h
      cases h
      refine ⟨rfl, rfl, rfl, rfl, fun _ => ⟨rfl, hmapKey, helement⟩, fun hsingle => ?_⟩
      rw [hmany] at hsingle
      cases hsingle
    · next hsingle =>
      obtain ⟨mapKey, hmapKey, h⟩ := Report.outcome_andThen_eq_ok.mp h
      obtain ⟨element, helement, h⟩ := Report.outcome_andThen_eq_ok.mp h
      cases hmapKey
      cases helement
      cases h
      refine ⟨rfl, rfl, rfl, rfl, fun hmany => absurd hmany hsingle, fun _ => ?_⟩
      exact ⟨rfl, rfl, rfl, rfl, rfl⟩

/-- A relationship that stays one-to-one has no column for a foreign key: with one it would be
many-to-one. -/
theorem foreignKeyColumn_of_oneToOne (h : facts.associationKind declared = .oneToOne) :
    facts.target.foreignKeyColumn = none := by
  unfold PropertyFacts.associationKind at h
  split at h
  · split at h
    · cases h
    · next hnone => simpa using hnone
  · split at h <;> cases h
  · next hother _ => exact absurd h hother

/-- A relationship that stays one-to-many has no link table: with one it would be many-to-many. -/
theorem linkTable_of_oneToMany (h : facts.associationKind declared = .oneToMany) :
    facts.link.table = none := by
  unfold PropertyFacts.associationKind at h
  split at h
  · split at h <;> cases h
  · split at h
    · cases h
    · next hnone => simpa using hnone
  · next hother => exact absurd h hother

/-- The rules make a coherent relationship of any facts. -/
theorem Association.coherent_of_ofFacts
    (h : (Association.ofFacts facts declared a).outcome = .ok r) : r.Coherent := by
  have hmade := Association.madeFrom_of_ofFacts h
  constructor
  case tag =>
    rw [hmade.tag]
    cases r.mapKey.isSome <;> decide
  case mapKey =>
    rw [hmade.tag]
    cases r.mapKey.isSome <;> decide
  case toMany =>
    intro hsome
    cases hmany : r.kind.isToMany with
    | true => rfl
    | false =>
      obtain ⟨hkey, helement, htable, hschema, hcatalog⟩ := hmade.toOne hmany
      simp [hkey, helement, htable, hschema, hcatalog] at hsome
  case oneToOne =>
    intro hone
    rw [hmade.foreignKeyColumn]
    exact foreignKeyColumn_of_oneToOne (hmade.kind.symm.trans hone)
  case oneToMany =>
    intro hmany
    obtain ⟨htable, -, -⟩ := hmade.toMany (by rw [hmany]; rfl)
    rw [htable]
    exact linkTable_of_oneToMany (hmade.kind.symm.trans hmany)

/-! ## Properties -/

/-- Identifiers have a generator, and no other property has one. -/
theorem generator?_eq_ok {generator : Option Generator}
    (hstrategy : ∀ s ∈ facts.generator.strategy, Text.isBlank s = false)
    (h : facts.generator? a = .ok generator) :
    (generator.isSome = true ↔ facts.kind = .id) ∧ ∀ g ∈ generator, g.Coherent := by
  unfold PropertyFacts.generator? at h
  split at h
  · next hid =>
    obtain ⟨g, hg, rfl⟩ := map_eq_ok.mp h
    refine ⟨by simpa using hid, ?_⟩
    rintro _ ⟨⟩
    exact Generator.coherent_of_ofFacts hstrategy hg
  · next hother =>
    cases h
    exact ⟨by simpa using hother, by simp⟩

/-- Declared relationships are relationships, of a kind that may be another one. -/
theorem association?_eq_ok {association : Option Association}
    (h : (facts.association? a).outcome = .ok association) :
    (association.isSome = true ↔ ∃ k, facts.kind = .association k) ∧
      ∀ r ∈ association, r.Coherent := by
  unfold PropertyFacts.association? at h
  split at h
  · next declared hdeclared =>
    obtain ⟨r, hr, h⟩ := Report.outcome_andThen_eq_ok.mp h
    cases h
    refine ⟨by simp [hdeclared], ?_⟩
    rintro _ ⟨⟩
    exact Association.coherent_of_ofFacts hr
  · next hother =>
    cases h
    refine ⟨?_, by simp⟩
    simpa using hother

/-- The relationship of a mapped property is what `association?` makes of the facts. -/
theorem MappedProperty.association_of_ofFacts
    (h : (MappedProperty.ofFacts facts a).outcome = .ok p) :
    (facts.association? a).outcome = .ok p.association := by
  unfold MappedProperty.ofFacts at h
  obtain ⟨generator, -, h⟩ := Report.outcome_andThen_eq_ok.mp h
  obtain ⟨association, hassociation, h⟩ := Report.outcome_andThen_eq_ok.mp h
  obtain ⟨type, -, h⟩ := Report.outcome_andThen_eq_ok.mp h
  cases h
  exact hassociation

/-- Which kinds of property have a column. -/
theorem Column.isSome_ofFacts? (facts : PropertyFacts) (kind : FieldKind) :
    ((∀ k, kind ≠ .association k) → (Column.ofFacts? facts kind).isSome = true) ∧
    (∀ k, kind = .association k → k ≠ .manyToOne → Column.ofFacts? facts kind = none) := by
  unfold Column.ofFacts?
  split
  · exact ⟨fun h => absurd rfl (h .manyToOne), fun k hk hne => by cases hk; exact absurd rfl hne⟩
  · next k _ => exact ⟨fun h => absurd rfl (h k), fun _ _ _ => rfl⟩
  · next _ hother => exact ⟨fun _ => rfl, fun k hk => absurd hk (hother k)⟩

/-- A formula takes the place of the column. -/
theorem not_isSome_column_of_formula (formula : Option String) (wrap : String → String)
    (column : Option Column) :
    ¬ ((if formula.isNone then column else none).isSome = true ∧
      (formula.map wrap).isSome = true) := by
  cases formula <;> simp

/-- The rules make a coherent property of sound facts. -/
theorem MappedProperty.coherent_of_ofFacts (hsound : facts.Sound)
    (h : (MappedProperty.ofFacts facts a).outcome = .ok p) : p.Coherent := by
  unfold MappedProperty.ofFacts at h
  obtain ⟨generator, hgenerator, h⟩ := Report.outcome_andThen_eq_ok.mp h
  obtain ⟨association, hassociation, h⟩ := Report.outcome_andThen_eq_ok.mp h
  obtain ⟨type, -, h⟩ := Report.outcome_andThen_eq_ok.mp h
  obtain ⟨hid, hgenerators⟩ := generator?_eq_ok hsound.strategy hgenerator
  obtain ⟨hrelation, hassociations⟩ := association?_eq_ok hassociation
  cases association with
  | none =>
    -- the kind is the declared one
    have hplain : ∀ k, facts.kind ≠ .association k := fun k hk => by
      simpa using hrelation.mpr ⟨k, hk⟩
    obtain ⟨hcolumn, -⟩ := Column.isSome_ofFacts? facts facts.kind
    cases h
    constructor
    case notCollection => exact hsound.kind
    case columnOrFormula => exact not_isSome_column_of_formula _ _ _
    case association => simpa using hplain
    case associationKind => simp
    case associationParts => simp
    case generator => exact hid
    case generatorParts => exact hgenerators
    case column =>
      intro _ hformula
      have hnone : facts.formula.isNone = true := by simpa using hformula
      simp only [hnone, if_true]
      exact hcolumn hplain
    case noColumn =>
      intro k hk
      exact absurd hk (hplain k)
  | some r =>
    -- the kind is the relationship's, and no identifier's
    obtain ⟨declared, hdeclared⟩ := hrelation.mp rfl
    obtain ⟨-, hcolumn⟩ := Column.isSome_ofFacts? facts (.association r.kind)
    cases h
    constructor
    case notCollection => simp
    case columnOrFormula => exact not_isSome_column_of_formula _ _ _
    case association => simp
    case associationKind =>
      rintro _ ⟨⟩
      rfl
    case associationParts => exact hassociations
    case generator =>
      rw [hid, hdeclared]
      simp
    case generatorParts => exact hgenerators
    case column =>
      intro hnone
      cases hnone
    case noColumn =>
      intro k hk hne
      cases hk
      split
      · exact hcolumn r.kind rfl hne
      · rfl

/-- What a declaration is mapped to comes from sound facts. -/
theorem MappedProperty.exists_facts_of_ofDecl
    (h : (MappedProperty.ofDecl decl dialect entity).outcome = .ok (some p)) :
    ∃ facts : PropertyFacts, facts.Sound ∧
      (MappedProperty.ofFacts facts (decl.annotationSet entity)).outcome = .ok p := by
  unfold MappedProperty.ofDecl at h
  obtain ⟨facts, hfacts, h⟩ := Report.outcome_andThen_eq_ok.mp h
  cases facts with
  | none => cases h
  | some facts =>
    obtain ⟨mapped, hmapped, h⟩ := Report.outcome_andThen_eq_ok.mp h
    cases h
    exact ⟨facts, sound_of_read hfacts, hmapped⟩

/-- Collections are maps and bags. -/
theorem MappedProperty.collectionTag_of_ofDecl
    (h : (MappedProperty.ofDecl decl dialect entity).outcome = .ok (some p)) :
    ∀ r ∈ p.association, r.collectionTag = "map" ∨ r.collectionTag = "bag" := by
  obtain ⟨facts, hsound, hmapped⟩ := MappedProperty.exists_facts_of_ofDecl h
  exact fun r hr => ((MappedProperty.coherent_of_ofFacts hsound hmapped).associationParts r hr).tag

/-- The target of a relationship is as it was written, and leads nowhere yet. -/
theorem MappedProperty.targetEntity_of_ofDecl
    (h : (MappedProperty.ofDecl decl dialect entity).outcome = .ok (some p)) :
    ∀ r ∈ p.association, r.targetEntity = none := by
  obtain ⟨facts, -, hmapped⟩ := MappedProperty.exists_facts_of_ofDecl h
  have hassociation := MappedProperty.association_of_ofFacts hmapped
  intro r hr
  rw [Option.mem_def.mp hr] at hassociation
  unfold PropertyFacts.association? at hassociation
  split at hassociation
  · obtain ⟨made, hmade, hassociation⟩ := Report.outcome_andThen_eq_ok.mp hassociation
    cases hassociation
    exact (Association.madeFrom_of_ofFacts hmade).unresolved
  · cases hassociation

/-- Whatever the annotations of a declaration say, what it is mapped to hangs together. -/
theorem MappedProperty.coherent_of_ofDecl
    (h : (MappedProperty.ofDecl decl dialect entity).outcome = .ok (some p)) : p.Coherent := by
  obtain ⟨facts, hsound, hmapped⟩ := MappedProperty.exists_facts_of_ofDecl h
  exact MappedProperty.coherent_of_ofFacts hsound hmapped

/-- The tags of a car by language, kept in a table of their own. -/
def tagsByLanguage : PropertyDecl where
  name := "tags"
  annotations := [("fieldtype", .str "One-To-Many"), ("cfc", .str "Tag"), ("type", .str "Struct"),
    ("fkcolumn", .str "car_id"), ("linktable", .str "car_tag"), ("structkeycolumn", .str "lang"),
    ("id", .str "no"), ("generator", .str " ")]

theorem MappedProperty.coherent_of_ofDecl_tags :
    ∃ p, (MappedProperty.ofDecl tagsByLanguage .classic "Car").outcome = .ok (some p) ∧
      p.kind = .association .manyToMany ∧ p.association.map (·.collectionTag) = some "map" ∧
      p.Coherent := by
  have hmapped : (MappedProperty.ofDecl tagsByLanguage .classic "Car").outcome.toOption.map
      (·.map fun p => (p.kind, p.association.map (·.collectionTag))) =
        some (some (.association .manyToMany, some "map")) := by decide +kernel
  obtain ⟨mapped, hoption, hmapped⟩ := Option.map_eq_some_iff.mp hmapped
  obtain ⟨p, rfl, hp⟩ := Option.map_eq_some_iff.mp hmapped
  obtain ⟨hkind, htag⟩ := Prod.mk.inj hp
  have hok := eq_ok_of_toOption hoption
  exact ⟨p, hok, hkind, htag, MappedProperty.coherent_of_ofDecl hok⟩

end OrmMapping
