import OrmMapping.Proofs.Property.Coherence

/-!
# What is declared of a relationship

The two vocabularies keep the facts that settle the shape of a relationship under different keys,
but each of them has a place for every one: the kind, a foreign key, a link table, the general type,
the column of the values and a formula. What is mapped depends on these terms alone, whichever
vocabulary they are told in.

* `declaredKind`: the kind of a property that is persisted;
* `RelationTerms`, `RelationTerms.ReadFrom`: the terms, and where they stand;
* `readFrom_of_read`: the facts that are read have the terms that stand there;
* `MappedProperty.Follows`: what is mapped of a relationship with these terms.
-/

namespace OrmMapping

variable {a : Annotations} {name : String} {dialect : Dialect} {facts common : PropertyFacts}
  {k : AssociationKind} {p : MappedProperty} {decl : PropertyDecl} {entity : String}

/-! ## The terms of a relationship -/

/-- The kind that the annotations of a property declare. -/
def declaredKind (dialect : Dialect) (a : Annotations) : Except MappingError FieldKind :=
  match dialect with
  | .classic => do
    let declared ← classicKind a
    let isId ← a.flag "id"
    return if isId then .id else declared
  | .modern => modernKind a

/-- The column of the foreign key. -/
def declaredForeignKey (dialect : Dialect) (a : Annotations) :
    Except MappingError (Option String) :=
  match dialect with
  | .classic => a.text? "fkcolumn"
  | .modern => (a.nested "joincolumn").text? "name"

/-- The table between the two entities. -/
def declaredLinkTable (dialect : Dialect) (a : Annotations) :
    Except MappingError (Option String) :=
  match dialect with
  | .classic => a.text? "linktable"
  | .modern => (a.nested "jointable").text? "name"

/-- The set that holds what is said of the relationship itself. -/
def relationSet (dialect : Dialect) (a : Annotations) : Annotations :=
  match dialect with
  | .classic => a
  | .modern => ((modernRelation? a).map fun (key, _) => a.nested key "targetentity").getD a

/-- What settles the shape of a relationship. A text that is blank counts as absent. -/
structure RelationTerms where
  kind : AssociationKind
  foreignKey : Option String := none
  linkTable : Option String := none
  type : Option String := none
  elementColumn : Option String := none
  formula : Option String := none
deriving DecidableEq, Repr

/-- The terms stand in the annotations of a property. -/
structure RelationTerms.ReadFrom (terms : RelationTerms) (dialect : Dialect) (a : Annotations) :
    Prop where
  kind : declaredKind dialect a = .ok (.association terms.kind)
  foreignKey : declaredForeignKey dialect a = .ok terms.foreignKey
  linkTable : declaredLinkTable dialect a = .ok terms.linkTable
  type : a.text? "type" = .ok terms.type
  elementColumn : (relationSet dialect a).text? "elementcolumn" = .ok terms.elementColumn
  formula : a.text? "formula" = .ok terms.formula

/-- The terms of a relationship of this kind among the facts of a property. -/
def PropertyFacts.terms (facts : PropertyFacts) (k : AssociationKind) : RelationTerms where
  kind := k
  foreignKey := facts.target.foreignKeyColumn
  linkTable := facts.link.table
  type := facts.declaredType
  elementColumn := facts.collection.elementColumn
  formula := facts.formula

/-! ## Reading the terms -/

/-- The last step of the flat vocabulary gives a relationship the terms that stand in `a`, where the
type and the formula that it has before do. -/
theorem PropertyFacts.ClassicRelated.terms_readFrom (h : common.ClassicRelated a facts)
    (hkind : common.kind = .association k) (hdeclared : declaredKind .classic a = .ok common.kind)
    (htype : a.text? "type" = .ok common.declaredType)
    (hformula : a.text? "formula" = .ok common.formula) : (facts.terms k).ReadFrom .classic a := by
  cases h with
  | relationship _ _ htarget _ hcollection hlink =>
    exact ⟨hkind ▸ hdeclared, htarget.foreignKeyColumn, hlink.table, htype,
      hcollection.elementColumn, hformula⟩
  | plain hother => exact absurd hkind (hother k)

/-- The last step of the structured vocabulary gives a relationship the terms that stand in `a`,
where the type and the formula that it has before do. -/
theorem PropertyFacts.ModernRelated.terms_readFrom (h : common.ModernRelated a facts)
    (hkind : common.kind = .association k) (hdeclared : declaredKind .modern a = .ok common.kind)
    (htype : a.text? "type" = .ok common.declaredType)
    (hformula : a.text? "formula" = .ok common.formula) : (facts.terms k).ReadFrom .modern a := by
  cases h with
  | @relationship _ _ key _ _ _ _ _ _ hkey htarget _ _ hcollection hlink =>
    have hset : relationSet .modern a = a.nested key "targetentity" := by
      simp only [relationSet, hkey, Option.map_some, Option.getD_some]
    exact ⟨hkind ▸ hdeclared, htarget.foreignKeyColumn, hlink.table, htype,
      hset ▸ hcollection.elementColumn, hformula⟩
  | plain hother =>
    -- where a relationship is declared, there is a key that it is declared under
    rw [hkind] at hdeclared
    obtain ⟨key, hkey⟩ := modernRelation_of_association hdeclared
    exact absurd hkey (hother k key k hkind)

/-- Facts of the flat vocabulary have the declared kind, and those of a relationship have its
terms. -/
theorem ClassicReading.readFrom (r : ClassicReading name a facts) :
    declaredKind .classic a = .ok facts.kind ∧
      ∀ k, facts.kind = .association k → (facts.terms k).ReadFrom .classic a := by
  have hdeclared : declaredKind .classic a = .ok facts.kind := by
    rw [r.kind_eq]
    exact bind_eq_ok.mpr ⟨r.declared, r.declared_read, bind_eq_ok.mpr ⟨r.isId, r.isId_read, rfl⟩⟩
  refine ⟨hdeclared, fun k hk => ?_⟩
  -- a relationship is no identifier, so that it has no generator to be read
  have hkind : r.identified.kind = .association k := r.related.kind_eq.symm.trans hk
  have hsame : r.identified = r.common :=
    r.identified_read.eq_of_ne_id (by simp [hkind])
  have hcommon := r.common_read
  rw [← hsame] at hcommon
  rw [r.related.kind_eq] at hdeclared
  exact r.related.terms_readFrom hkind hdeclared hcommon.declaredType hcommon.formula

/-- Facts of the structured vocabulary have the declared kind, and those of a relationship have its
terms. -/
theorem ModernReading.readFrom (r : ModernReading name a facts) :
    declaredKind .modern a = .ok facts.kind ∧
      ∀ k, facts.kind = .association k → (facts.terms k).ReadFrom .modern a := by
  have hdeclared : declaredKind .modern a = .ok facts.kind := by
    rw [r.kind_eq]
    exact r.kind_read
  refine ⟨hdeclared, fun k hk => ?_⟩
  -- a relationship is no identifier, so that it has no generator to be read
  have hkind : r.identified.kind = .association k := r.related.kind_eq.symm.trans hk
  have hsame : r.identified = r.common :=
    r.identified_read.eq_of_ne_id (by simp [hkind])
  have hcommon := r.common_read
  rw [← hsame] at hcommon
  rw [r.related.kind_eq] at hdeclared
  exact r.related.terms_readFrom hkind hdeclared hcommon.declaredType hcommon.formula

/-- The kind that is read is the one declared, and the facts of a relationship have the terms that
stand in its annotations. -/
theorem readFrom_of_read (h : (PropertyFacts.read name dialect a).outcome = .ok (some facts)) :
    declaredKind dialect a = .ok facts.kind ∧
      ∀ k, facts.kind = .association k → (facts.terms k).ReadFrom dialect a := by
  cases dialect with
  | classic =>
    obtain ⟨r⟩ := nonempty_classicReading h
    exact r.readFrom
  | modern =>
    obtain ⟨r⟩ := nonempty_modernReading h
    exact r.readFrom

/-! ## What is mapped -/

/-- Whether the general type makes a map of a collection. -/
def RelationTerms.isMap (terms : RelationTerms) : Bool :=
  ["struct", "map"].contains (Text.lower (terms.type.getD ""))

/-- The kind of a relationship once its foreign key and its link table are taken into account. -/
def RelationTerms.mappedKind (terms : RelationTerms) : AssociationKind :=
  match terms.kind with
  | .manyToOne => .manyToOne
  | .oneToOne => if terms.foreignKey.isSome then .manyToOne else .oneToOne
  | .manyToMany => .manyToMany
  | .oneToMany => if terms.linkTable.isSome then .manyToMany else .oneToMany

/-- A relationship that is mapped with these terms. -/
structure MappedProperty.Follows (p : MappedProperty) (r : Association) (terms : RelationTerms) :
    Prop where
  association : p.association = some r
  kind : r.kind = terms.mappedKind
  mapKey : r.mapKey.isSome = (r.kind.isToMany && terms.isMap)
  tag : r.collectionTag = if r.mapKey.isSome then "map" else "bag"
  element : r.element.isSome = (r.kind.isToMany && terms.elementColumn.isSome)
  promoted : terms.kind = .oneToOne → ∀ f ∈ terms.foreignKey,
    p.unique = true ∧
      p.column.map (·.name) = if terms.formula.isNone then some f else none

/-- A map has keys, and no other collection has them. -/
theorem isSome_of_mapKeyColumn {key : Option CollectionColumn}
    (h : (mapKeyColumn facts a).outcome = .ok key) : key.isSome = facts.isMap := by
  unfold mapKeyColumn at h
  cases hmap : facts.isMap with
  | false =>
    rw [hmap] at h
    cases h
    rfl
  | true =>
    simp only [hmap, Bool.not_true, Bool.false_eq_true, if_false] at h
    split at h
    · obtain ⟨_, hfail, -⟩ := Report.outcome_andThen_eq_ok.mp h
      cases hfail
    · obtain ⟨type, -, h⟩ := Report.outcome_andThen_eq_ok.mp h
      cases h
      rfl

/-- A collection has plain values when their column is declared. -/
theorem isSome_of_elementColumn {element : Option CollectionColumn}
    (h : (elementColumn facts a).outcome = .ok element) :
    element.isSome = facts.collection.elementColumn.isSome := by
  unfold elementColumn at h
  split at h
  · next hnone =>
    cases h
    rw [Option.isNone_iff_eq_none.mp hnone]
    rfl
  · next hsome =>
    obtain ⟨type, -, h⟩ := Report.outcome_andThen_eq_ok.mp h
    cases h
    rw [Option.isNone_iff_eq_none] at hsome
    exact (Option.isSome_iff_ne_none.mpr hsome).symm

/-- The kind that the terms lead to is the one that the rules use. -/
theorem mappedKind_terms : (facts.terms k).mappedKind = facts.associationKind k := by
  cases k <;> rfl

/-- If `column` is there as `declared` says for a collection and never otherwise, then both
conditions can be told in one. -/
theorem isSome_of_toMany {kind : AssociationKind} {column : Option CollectionColumn}
    {declared : Bool}
    (hmany : kind.isToMany = true → column.isSome = declared)
    (hone : kind.isToMany = false → column = none) :
    column.isSome = (kind.isToMany && declared) := by
  cases hkind : kind.isToMany with
  | true => rw [hmany hkind, Bool.true_and]
  | false => rw [hone hkind, Bool.false_and, Option.isSome_none]

/-- What the rules make of a relationship follows its terms. -/
theorem follows_of_ofFacts (hkind : facts.kind = .association k)
    (h : (MappedProperty.ofFacts facts a).outcome = .ok p) : ∃ r, p.Follows r (facts.terms k) := by
  unfold MappedProperty.ofFacts at h
  obtain ⟨generator, -, h⟩ := Report.outcome_andThen_eq_ok.mp h
  obtain ⟨association, hassociation, h⟩ := Report.outcome_andThen_eq_ok.mp h
  obtain ⟨type, -, h⟩ := Report.outcome_andThen_eq_ok.mp h
  rw [PropertyFacts.association?, hkind] at hassociation
  obtain ⟨r, hr, hassociation⟩ := Report.outcome_andThen_eq_ok.mp hassociation
  cases hassociation
  cases h
  -- all parts are told by `MadeFrom`, one case for each field of `Follows`
  have hmade := Association.madeFrom_of_ofFacts hr
  refine ⟨r, ?_⟩
  constructor
  case association => rfl
  case kind => rw [mappedKind_terms, hmade.kind]
  case mapKey =>
    exact isSome_of_toMany (fun hmany => isSome_of_mapKeyColumn (hmade.toMany hmany).2.1)
      fun hone => (hmade.toOne hone).1
  case tag => exact hmade.tag
  case element =>
    exact isSome_of_toMany (fun hmany => isSome_of_elementColumn (hmade.toMany hmany).2.2)
      fun hone => (hmade.toOne hone).2.1
  case promoted =>
    -- a foreign key makes a many-to-one of a one-to-one, which is unique and has a column
    intro hone f hf
    obtain rfl : k = .oneToOne := hone
    have hforeignKey : facts.target.foreignKeyColumn = some f := hf
    have hmapped : r.kind = .manyToOne := by
      rw [hmade.kind]
      simp [PropertyFacts.associationKind, hforeignKey]
    refine ⟨?_, ?_⟩
    · simp [hmapped, hkind]
    · show (if facts.formula.isNone then _ else none : Option Column).map _ =
        if facts.formula.isNone then some f else none
      simp only [Option.map_some, Option.getD_some, hmapped]
      split
      · simp [Column.ofFacts?, hforeignKey]
      · rfl

/-- A declared relationship that is mapped follows terms that stand in its annotations. -/
theorem exists_follows_of_ofDecl
    (h : (MappedProperty.ofDecl decl dialect entity).outcome = .ok (some p))
    (hkind : declaredKind dialect (decl.annotationSet entity) = .ok (.association k)) :
    ∃ terms : RelationTerms, terms.kind = k ∧
      terms.ReadFrom dialect (decl.annotationSet entity) ∧ ∃ r, p.Follows r terms := by
  unfold MappedProperty.ofDecl at h
  obtain ⟨facts, hfacts, h⟩ := Report.outcome_andThen_eq_ok.mp h
  cases facts with
  | none => cases h
  | some facts =>
    obtain ⟨mapped, hmapped, h⟩ := Report.outcome_andThen_eq_ok.mp h
    cases h
    obtain ⟨hdeclared, hterms⟩ := readFrom_of_read hfacts
    have hassociation : facts.kind = .association k :=
      Except.ok.inj (hdeclared.symm.trans hkind)
    exact ⟨facts.terms k, rfl, hterms k hassociation, follows_of_ofFacts hassociation hmapped⟩

end OrmMapping
