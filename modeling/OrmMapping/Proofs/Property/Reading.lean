import OrmMapping.Property.Mapping
import OrmMapping.Proofs.Annotation.Texts

/-!
# What readings give

Each reader of property annotations is opened here once: what it returns is told by a structure
whose fields say under which key each fact stands. Later proofs take the fields by name, and a
reader that changes changes its structure and one lemma.

Whichever vocabulary the annotations of a property are in, the facts that are read of it are never
those of a bare collection, and the way in which its identifiers are made, where one is named, is no
blank text. The kind is settled before anything else is read, and no step changes it.

* `ColumnFacts.ReadFrom`, `RelationFacts.ReadFrom`, `CollectionFacts.ReadFrom`,
  `LinkFacts.ReadFrom`: the groups that both vocabularies share;
* `PropertyFacts.IdentifiedFrom`: the step that adds a generator, the same in both;
* `ClassicReading`, `ModernReading`: the steps of a vocabulary, with what each of them gives;
* `nonempty_classicReading`, `nonempty_modernReading`: facts that are read went through these steps;
* `PropertyFacts.Sound`, `sound_of_read`: what the rules rely on.
-/

namespace OrmMapping

variable {a relationSet joinColumn : Annotations} {name : String} {kind : FieldKind}
  {dialect : Dialect} {facts facts' : PropertyFacts} {generator : GeneratorFacts}
  {target : TargetFacts}

/-! ## Groups of facts -/

/-- The facts on a column stand in `a`: the name under `nameKey`, the default value under
`defaultKey`, and the others under keys of their own. -/
structure ColumnFacts.ReadFrom (column : ColumnFacts) (a : Annotations)
    (nameKey defaultKey : String) : Prop where
  name : a.text? nameKey = .ok column.name
  length : a.integer? "length" = .ok column.length
  precision : a.integer? "precision" = .ok column.precision
  scale : a.integer? "scale" = .ok column.scale
  defaultValue : a.text? defaultKey = .ok column.defaultValue
  table : a.text? "table" = .ok column.table
  uniqueKey : a.text? "uniquekey" = .ok column.uniqueKey

/-- Inversion of `ColumnFacts.read`. -/
theorem ColumnFacts.readFrom_of_read {nameKey defaultKey : String} {column : ColumnFacts}
    (h : ColumnFacts.read a nameKey defaultKey = .ok column) :
    column.ReadFrom a nameKey defaultKey := by
  simp only [ColumnFacts.read, bind_eq_ok, pure_eq_ok] at h
  obtain ⟨_, hname, _, hlength, _, hprecision, _, hscale, _, hdefault, _, htable, _, hkey, rfl⟩ := h
  exact ⟨hname, hlength, hprecision, hscale, hdefault, htable, hkey⟩

/-- The facts on a relationship of any kind stand in `a`. -/
structure RelationFacts.ReadFrom (relation : RelationFacts) (a : Annotations) : Prop where
  mappedBy : a.text? "mappedby" = .ok relation.mappedBy
  cascade : a.text? "cascade" = .ok relation.cascade
  fetch : a.text? "fetch" = .ok relation.fetch
  constrained : a.flag "constrained" = .ok relation.constrained
  inverse : a.flag "inverse" = .ok relation.inverse
  orderBy : a.text? "orderby" = .ok relation.orderBy
  condition : a.text? "where" = .ok relation.condition
  batchSize : a.integer? "batchsize" = .ok relation.batchSize
  missingRowIgnored : a.flag "missingrowignored" = .ok relation.missingRowIgnored

/-- Inversion of `RelationFacts.read`. -/
theorem RelationFacts.readFrom_of_read {relation : RelationFacts}
    (h : RelationFacts.read a = .ok relation) : relation.ReadFrom a := by
  simp only [RelationFacts.read, bind_eq_ok, pure_eq_ok] at h
  obtain ⟨_, hmapped, _, hcascade, _, hfetch, _, hconstrained, h⟩ := h
  obtain ⟨_, hinverse, _, horder, _, hcondition, _, hsize, _, hmissing, rfl⟩ := h
  exact ⟨hmapped, hcascade, hfetch, hconstrained, hinverse, horder, hcondition, hsize, hmissing⟩

/-- The facts on the keys and values of a collection stand in `a`. -/
structure CollectionFacts.ReadFrom (collection : CollectionFacts) (a : Annotations) : Prop where
  keyColumn : a.text? "structkeycolumn" = .ok collection.keyColumn
  keyType : a.text? "structkeytype" = .ok collection.keyType
  keyFormula : a.text? "structkeyformula" = .ok collection.keyFormula
  elementColumn : a.text? "elementcolumn" = .ok collection.elementColumn
  elementType : a.text? "elementtype" = .ok collection.elementType
  elementFormula : a.text? "elementformula" = .ok collection.elementFormula

/-- Inversion of `CollectionFacts.read`. -/
theorem CollectionFacts.readFrom_of_read {collection : CollectionFacts}
    (h : CollectionFacts.read a = .ok collection) : collection.ReadFrom a := by
  simp only [CollectionFacts.read, bind_eq_ok, pure_eq_ok] at h
  obtain ⟨_, hkey, _, hkeyType, _, hkeyFormula, h⟩ := h
  obtain ⟨_, helement, _, helementType, _, helementFormula, rfl⟩ := h
  exact ⟨hkey, hkeyType, hkeyFormula, helement, helementType, helementFormula⟩

/-- The facts on the table between two entities stand in `a`, under the keys of a vocabulary. -/
structure LinkFacts.ReadFrom (link : LinkFacts) (a : Annotations)
    (tableKey schemaKey catalogKey : String) : Prop where
  table : a.text? tableKey = .ok link.table
  schema : a.text? schemaKey = .ok link.schema
  catalog : a.text? catalogKey = .ok link.catalog
  inverseJoinColumn : a.text? "inversejoincolumn" = .ok link.inverseJoinColumn

/-- Inversion of `LinkFacts.read`. -/
theorem LinkFacts.readFrom_of_read {tableKey schemaKey catalogKey : String} {link : LinkFacts}
    (h : LinkFacts.read a tableKey schemaKey catalogKey = .ok link) :
    link.ReadFrom a tableKey schemaKey catalogKey := by
  simp only [LinkFacts.read, bind_eq_ok, pure_eq_ok] at h
  obtain ⟨_, htable, _, hschema, _, hcatalog, _, hinverse, rfl⟩ := h
  exact ⟨htable, hschema, hcatalog, hinverse⟩

/-- The step that adds a generator: an identifier gets the one that `read` gives, and any other
property is left as it is. -/
inductive PropertyFacts.IdentifiedFrom (read : Report GeneratorFacts) (facts : PropertyFacts) :
    PropertyFacts → Prop
  | identifier {generator : GeneratorFacts} (kind : facts.kind = .id)
      (generator_read : read.outcome = .ok generator) :
      IdentifiedFrom read facts { facts with generator }
  | other (kind : facts.kind ≠ .id) : IdentifiedFrom read facts facts

namespace PropertyFacts.IdentifiedFrom

variable {read : Report GeneratorFacts}

/-- The step does not change `kind`. -/
theorem kind_eq (h : IdentifiedFrom read facts facts') : facts'.kind = facts.kind := by
  cases h with
  | identifier => rfl
  | other => rfl

/-- If `facts'.kind` is no identifier's, then the step has changed nothing. -/
theorem eq_of_ne_id (h : IdentifiedFrom read facts facts') (hkind : facts'.kind ≠ .id) :
    facts' = facts := by
  cases h with
  | identifier hid => exact absurd hid hkind
  | other => rfl

end PropertyFacts.IdentifiedFrom

/-! ## The flat vocabulary -/

/-- The facts on the making of identifiers stand in the flat set `a`. Parameters with keys of their
own come before those of the list. -/
structure GeneratorFacts.ClassicFrom (generator : GeneratorFacts) (a : Annotations) : Prop where
  strategy : a.text? "generator" = .ok generator.strategy
  sequence : a.text? "sequence" = .ok generator.sequence
  selectKey : a.text? "selectkey" = .ok generator.selectKey
  params : ∃ own params, classicOwnParams a = .ok own ∧
    (a.parameters "params").outcome = .ok params ∧ generator.params = own ++ params

/-- Inversion of `classicGenerator`. -/
theorem classicFrom_of_classicGenerator (h : (classicGenerator a).outcome = .ok generator) :
    generator.ClassicFrom a := by
  simp only [classicGenerator, Report.bind_def, Report.outcome_andThen_eq_ok, Report.liftM_def,
    Report.outcome_ofExcept] at h
  obtain ⟨_, hstrategy, _, hsequence, _, hselect, own, hown, params, hparams, hgenerator⟩ := h
  cases hgenerator
  exact ⟨hstrategy, hsequence, hselect, own, params, hown, hparams, rfl⟩

/-- The target of a relationship stands in the flat set `a`. -/
structure TargetFacts.ClassicFrom (target : TargetFacts) (a : Annotations) : Prop where
  entity : a.firstText? ["cfc", "class"] = .ok target.entity
  lazy : a.text? "lazy" = .ok target.lazy
  foreignKeyColumn : a.text? "fkcolumn" = .ok target.foreignKeyColumn
  foreignKeyName : a.firstText? ["foreignkeyname", "foreignkey"] = .ok target.foreignKeyName

/-- Inversion of `classicTarget`. -/
theorem classicFrom_of_classicTarget (h : classicTarget a = .ok target) :
    target.ClassicFrom a := by
  simp only [classicTarget, bind_eq_ok, pure_eq_ok] at h
  obtain ⟨_, hentity, _, hlazy, _, hcolumn, _, hname, rfl⟩ := h
  exact ⟨hentity, hlazy, hcolumn, hname⟩

/-- The facts of a property of any kind, as they stand in the flat set `a`. Nothing is known of a
generator or of a relationship yet, and `lazy` is no flag before the kind is looked at. -/
structure PropertyFacts.ClassicCommon (facts : PropertyFacts) (name : String)
    (declared : FieldKind) (a : Annotations) : Prop where
  name : facts.name = name
  kind : facts.kind = declared
  fieldTag : a.text? "fieldtype" = .ok facts.fieldTag
  ormType : a.text? "ormtype" = .ok facts.ormType
  sqlType : a.sqlType? = .ok facts.sqlType
  declaredType : a.text? "type" = .ok facts.declaredType
  dataType : (if declared == .version then a.text? "datatype" else pure none) =
    .ok facts.dataType
  formula : a.text? "formula" = .ok facts.formula
  column : facts.column.ReadFrom a "column" "dbdefault"
  unique : a.flag "unique" = .ok facts.unique
  notNull : a.flag "notnull" = .ok facts.notNull
  insertable : a.optionalFlag "insert" = .ok facts.insertable
  updatable : a.optionalFlag "update" = .ok facts.updatable
  immutable : a.flag "readonly" = .ok facts.immutable
  lazy : facts.lazy = false
  lockSensitive : a.flag "optimisticlock" true = .ok facts.lockSensitive
  unsavedValue : a.text? "unsavedvalue" = .ok facts.unsavedValue
  generator : facts.generator = {}
  target : facts.target = {}
  relation : facts.relation = {}
  collection : facts.collection = {}
  link : facts.link = {}

/-- Inversion of `classicCommon`. -/
theorem classicCommon_of_read (h : classicCommon name kind a = .ok facts) :
    facts.ClassicCommon name kind a := by
  simp only [classicCommon, bind_eq_ok] at h
  obtain ⟨fieldTag, htag, ormType, horm, sqlType, hsql, declaredType, hdeclared, h⟩ := h
  obtain ⟨formula, hformula, column, hcolumn, unique, hunique, notNull, hnotNull, h⟩ := h
  obtain ⟨insertable, hinsert, updatable, hupdate, immutable, himmutable, h⟩ := h
  obtain ⟨lockSensitive, hlock, unsavedValue, hunsaved, h⟩ := h
  -- versions have one fact more, and both branches end in the same record
  have hlast : ∃ dataType,
      (if kind == .version then a.text? "datatype" else pure none) = .ok dataType ∧
      ({ name, kind, fieldTag, ormType, sqlType, declaredType, dataType, formula, column, unique,
         notNull, insertable, updatable, immutable, lockSensitive, unsavedValue } :
        PropertyFacts) = facts := by
    split at h
    · next hversion =>
      obtain ⟨dataType, hdata, h⟩ := bind_eq_ok.mp h
      exact ⟨dataType, by rw [if_pos hversion, hdata], pure_eq_ok.mp h⟩
    · next hother => exact ⟨none, by rw [if_neg hother, pure_eq_ok], pure_eq_ok.mp h⟩
  obtain ⟨dataType, hdata, rfl⟩ := hlast
  constructor
  case column => exact ColumnFacts.readFrom_of_read hcolumn
  case dataType => exact hdata
  all_goals first | rfl | assumption

/-- The step that adds a generator in the flat vocabulary. -/
theorem identifiedFrom_of_classicWithGenerator
    (h : (classicWithGenerator facts a).outcome = .ok facts') :
    facts.IdentifiedFrom (classicGenerator a) facts' := by
  unfold classicWithGenerator at h
  split at h
  · next hid =>
    obtain ⟨generator, hgenerator, h⟩ := Report.outcome_andThen_eq_ok.mp h
    cases h
    exact .identifier (eq_of_beq hid) hgenerator
  · next hother =>
    cases h
    exact .other (by simpa using hother)

/-- The last step of the flat vocabulary: a relationship gets the facts that stand in `a`, unless it
has a link table and no foreign key, and any other property gets the flag `lazy`. -/
inductive PropertyFacts.ClassicRelated (facts : PropertyFacts) (a : Annotations) :
    PropertyFacts → Prop
  | relationship {k : AssociationKind} {target : TargetFacts} {relation : RelationFacts}
      {collection : CollectionFacts} {link : LinkFacts} (kind : facts.kind = .association k)
      (foreignKey : (a.has "linktable" && !a.has "fkcolumn") = false)
      (target_read : target.ClassicFrom a) (relation_read : relation.ReadFrom a)
      (collection_read : collection.ReadFrom a)
      (link_read : link.ReadFrom a "linktable" "linkschema" "linkcatalog") :
      ClassicRelated facts a { facts with target, relation, collection, link }
  | plain {lazy : Bool} (kind : ∀ k, facts.kind ≠ .association k)
      (lazy_read : a.flag "lazy" = .ok lazy) : ClassicRelated facts a { facts with lazy }

/-- Inversion of `classicWithRelation`. -/
theorem classicRelated_of_read (h : classicWithRelation facts a = .ok facts') :
    facts.ClassicRelated a facts' := by
  unfold classicWithRelation at h
  split at h
  · next k hkind =>
    dsimp only at h
    split at h
    · -- a link table without a foreign key is refused
      obtain ⟨_, hrefused, -⟩ := bind_eq_ok.mp h
      cases hrefused
    · next hkey =>
      simp only [bind_eq_ok, pure_eq_ok] at h
      obtain ⟨_, htarget, _, hrelation, _, hcollection, _, hlink, rfl⟩ := h
      exact .relationship hkind (by simpa using hkey) (classicFrom_of_classicTarget htarget)
        (RelationFacts.readFrom_of_read hrelation) (CollectionFacts.readFrom_of_read hcollection)
        (LinkFacts.readFrom_of_read hlink)
  · next hother =>
    obtain ⟨lazy, hlazy, h⟩ := bind_eq_ok.mp h
    cases h
    exact .plain hother hlazy

namespace PropertyFacts.ClassicRelated

/-- The step does not change `kind`. -/
theorem kind_eq (h : ClassicRelated facts a facts') : facts'.kind = facts.kind := by
  cases h with
  | relationship => rfl
  | plain => rfl

/-- The step does not change `generator`. -/
theorem generator_eq (h : ClassicRelated facts a facts') :
    facts'.generator = facts.generator := by
  cases h with
  | relationship => rfl
  | plain => rfl

end PropertyFacts.ClassicRelated

/-- How `facts` are read in the flat vocabulary of a property that is persisted. The kind is settled
by `declared` and the flag `isId`; `common` and `identified` are the facts after the first steps. -/
structure ClassicReading (name : String) (a : Annotations) (facts : PropertyFacts) where
  declared : FieldKind
  isId : Bool
  common : PropertyFacts
  identified : PropertyFacts
  persistent : a.flag "persistent" true = .ok true
  declared_read : classicKind a = .ok declared
  notCollection : declared ≠ .collection
  isId_read : a.flag "id" = .ok isId
  common_read : common.ClassicCommon name (if isId then .id else declared) a
  identified_read : common.IdentifiedFrom (classicGenerator a) identified
  related : identified.ClassicRelated a facts

/-- Inversion of `PropertyFacts.readClassic`: there are no other ways to facts. -/
theorem nonempty_classicReading
    (h : (PropertyFacts.readClassic name a).outcome = .ok (some facts)) :
    Nonempty (ClassicReading name a facts) := by
  unfold PropertyFacts.readClassic at h
  obtain ⟨persistent, hpersistent, h⟩ := Report.outcome_andThen_eq_ok.mp h
  cases persistent with
  | false => cases h
  | true =>
    obtain ⟨declared, hdeclared, h⟩ := Report.outcome_andThen_eq_ok.mp h
    split at h
    · -- a bare collection is passed over with a warning
      obtain ⟨_, -, h⟩ := Report.outcome_andThen_eq_ok.mp h
      cases h
    · next hcollection =>
      obtain ⟨isId, hisId, h⟩ := Report.outcome_andThen_eq_ok.mp h
      obtain ⟨common, hcommon, h⟩ := Report.outcome_andThen_eq_ok.mp h
      obtain ⟨identified, hidentified, h⟩ := Report.outcome_andThen_eq_ok.mp h
      obtain ⟨read, hread, h⟩ := Report.outcome_andThen_eq_ok.mp h
      cases h
      exact ⟨{
        declared, isId, common, identified
        persistent := hpersistent
        declared_read := hdeclared
        notCollection := by simpa using hcollection
        isId_read := hisId
        common_read := classicCommon_of_read hcommon
        identified_read := identifiedFrom_of_classicWithGenerator hidentified
        related := classicRelated_of_read hread }⟩

/-- No step after the first changes the kind. -/
theorem ClassicReading.kind_eq (r : ClassicReading name a facts) :
    facts.kind = if r.isId then .id else r.declared :=
  r.related.kind_eq.trans (r.identified_read.kind_eq.trans r.common_read.kind)

/-! ## The structured vocabulary -/

/-- The facts on the making of identifiers stand in the set `generatedvalue` of `a`. -/
structure GeneratorFacts.ModernFrom (generator : GeneratorFacts) (a : Annotations) : Prop where
  strategy : (a.nested "generatedvalue" "strategy").text? "strategy" = .ok generator.strategy
  sequence : (a.nested "generatedvalue" "strategy").text? "sequence" = .ok generator.sequence
  selectKey : (a.nested "generatedvalue" "strategy").text? "selectkey" = .ok generator.selectKey
  params : ((a.nested "generatedvalue" "strategy").parameters "params").outcome =
    .ok generator.params

/-- Inversion of `modernGenerator`. -/
theorem modernFrom_of_modernGenerator (h : (modernGenerator a).outcome = .ok generator) :
    generator.ModernFrom a := by
  simp only [modernGenerator, Report.bind_def, Report.outcome_andThen_eq_ok, Report.liftM_def,
    Report.outcome_ofExcept] at h
  obtain ⟨_, hstrategy, _, hsequence, _, hselect, _, hparams, hgenerator⟩ := h
  cases hgenerator
  exact ⟨hstrategy, hsequence, hselect, hparams⟩

/-- The target of a relationship stands in the set of the relationship and in that of the join
column. -/
structure TargetFacts.ModernFrom (target : TargetFacts) (relationSet joinColumn : Annotations) :
    Prop where
  entity : relationSet.firstText? ["targetentity", "target", "entity"] = .ok target.entity
  lazy : relationSet.text? "lazy" = .ok target.lazy
  foreignKeyColumn : joinColumn.text? "name" = .ok target.foreignKeyColumn
  foreignKeyName : joinColumn.text? "foreignkey" = .ok target.foreignKeyName

/-- Inversion of `modernTarget`. -/
theorem modernFrom_of_modernTarget (h : modernTarget relationSet joinColumn = .ok target) :
    target.ModernFrom relationSet joinColumn := by
  simp only [modernTarget, bind_eq_ok, pure_eq_ok] at h
  obtain ⟨_, hentity, _, hlazy, _, hcolumn, _, hname, rfl⟩ := h
  exact ⟨hentity, hlazy, hcolumn, hname⟩

/-- The facts of a property of any kind, as they stand in the structured set `a`. Nothing is known
of a generator or of a relationship yet. -/
structure PropertyFacts.ModernCommon (facts : PropertyFacts) (name : String)
    (declared : FieldKind) (a : Annotations) : Prop where
  name : facts.name = name
  kind : facts.kind = declared
  fieldTag : facts.fieldTag = none
  ormType : a.text? "ormtype" = .ok facts.ormType
  sqlType : modernSqlType? a (a.nested "column") = .ok facts.sqlType
  declaredType : a.text? "type" = .ok facts.declaredType
  dataType : facts.dataType = none
  formula : a.text? "formula" = .ok facts.formula
  column : facts.column.ReadFrom (a.nested "column") "name" "default"
  unique : modernUnique a (a.nested "column") = .ok facts.unique
  notNull : modernNotNull a (a.nested "column") = .ok facts.notNull
  insertable : (a.nested "column").optionalFlag "insertable" = .ok facts.insertable
  updatable : (a.nested "column").optionalFlag "updatable" = .ok facts.updatable
  immutable : a.flag "immutable" = .ok facts.immutable
  lazy : a.flag "lazy" = .ok facts.lazy
  lockSensitive : a.flag "optimisticlock" true = .ok facts.lockSensitive
  unsavedValue : a.text? "unsavedvalue" = .ok facts.unsavedValue
  generator : facts.generator = {}
  target : facts.target = {}
  relation : facts.relation = {}
  collection : facts.collection = {}
  link : facts.link = {}

/-- Inversion of `modernCommon`. -/
theorem modernCommon_of_read (h : modernCommon name kind a = .ok facts) :
    facts.ModernCommon name kind a := by
  simp only [modernCommon, bind_eq_ok, pure_eq_ok] at h
  obtain ⟨ormType, horm, sqlType, hsql, declaredType, hdeclared, formula, hformula, h⟩ := h
  obtain ⟨column, hcolumn, unique, hunique, notNull, hnotNull, insertable, hinsert, h⟩ := h
  obtain ⟨updatable, hupdate, immutable, himmutable, lazy, hlazy, h⟩ := h
  obtain ⟨lockSensitive, hlock, unsavedValue, hunsaved, rfl⟩ := h
  constructor
  case column => exact ColumnFacts.readFrom_of_read hcolumn
  all_goals first | rfl | assumption

/-- The step that adds a generator in the structured vocabulary. -/
theorem identifiedFrom_of_modernWithGenerator
    (h : (modernWithGenerator facts a).outcome = .ok facts') :
    facts.IdentifiedFrom (modernGenerator a) facts' := by
  unfold modernWithGenerator at h
  split at h
  · next hid =>
    obtain ⟨generator, hgenerator, h⟩ := Report.outcome_andThen_eq_ok.mp h
    cases h
    exact .identifier (eq_of_beq hid) hgenerator
  · next hother =>
    cases h
    exact .other (by simpa using hother)

/-- The last step of the structured vocabulary: a relationship gets the facts that stand under its
key `key`, in the join column and in the join table, and any other property nothing. A relationship
that is not optional makes the property required. -/
inductive PropertyFacts.ModernRelated (facts : PropertyFacts) (a : Annotations) :
    PropertyFacts → Prop
  | relationship {k k' : AssociationKind} {key : String} {notNull : Bool} {target : TargetFacts}
      {relation : RelationFacts} {collection : CollectionFacts} {link : LinkFacts}
      (kind : facts.kind = .association k) (declared : modernRelation? a = some (key, k'))
      (target_read : target.ModernFrom (a.nested key "targetentity") (a.nested "joincolumn"))
      (notNull_read : (if facts.notNull then pure true
        else ((a.nested key "targetentity").flag "optional" true).map (!·)) = .ok notNull)
      (relation_read : relation.ReadFrom (a.nested key "targetentity"))
      (collection_read : collection.ReadFrom (a.nested key "targetentity"))
      (link_read : link.ReadFrom (a.nested "jointable") "name" "schema" "catalog") :
      ModernRelated facts a { facts with notNull, target, relation, collection, link }
  | plain (kind : ∀ k key k', facts.kind = .association k → modernRelation? a ≠ some (key, k')) :
      ModernRelated facts a facts

/-- Inversion of `modernWithRelation`. -/
theorem modernRelated_of_read (h : modernWithRelation facts a = .ok facts') :
    facts.ModernRelated a facts' := by
  unfold modernWithRelation at h
  split at h
  · next k key k' hkind hdeclared =>
    dsimp only at h
    obtain ⟨target, htarget, h⟩ := bind_eq_ok.mp h
    -- a relationship may be required by the property or by itself
    split at h
    all_goals
      rename_i hrequired
      simp only [bind_eq_ok, pure_eq_ok] at h
      obtain ⟨_, hnotNull, _, hrelation, _, hcollection, _, hlink, rfl⟩ := h
      refine .relationship hkind hdeclared (modernFrom_of_modernTarget htarget) ?_
        (RelationFacts.readFrom_of_read hrelation) (CollectionFacts.readFrom_of_read hcollection)
        (LinkFacts.readFrom_of_read hlink)
    · rw [if_pos hrequired, pure_eq_ok]
      exact hnotNull
    · rw [if_neg hrequired]
      exact hnotNull
  · next hother =>
    cases h
    exact .plain fun k key k' hkind hdeclared => hother k key k' hkind hdeclared

namespace PropertyFacts.ModernRelated

/-- The step does not change `kind`. -/
theorem kind_eq (h : ModernRelated facts a facts') : facts'.kind = facts.kind := by
  cases h with
  | relationship => rfl
  | plain => rfl

/-- The step does not change `generator`. -/
theorem generator_eq (h : ModernRelated facts a facts') :
    facts'.generator = facts.generator := by
  cases h with
  | relationship => rfl
  | plain => rfl

end PropertyFacts.ModernRelated

/-- How `facts` are read in the structured vocabulary of a property that is not transient:
`common` and `identified` are the facts after the first steps. -/
structure ModernReading (name : String) (a : Annotations) (facts : PropertyFacts) where
  kind : FieldKind
  common : PropertyFacts
  identified : PropertyFacts
  persistent : a.flag "transient" = .ok false
  kind_read : modernKind a = .ok kind
  common_read : common.ModernCommon name kind a
  identified_read : common.IdentifiedFrom (modernGenerator a) identified
  related : identified.ModernRelated a facts

/-- Inversion of `PropertyFacts.readModern`: there are no other ways to facts. -/
theorem nonempty_modernReading
    (h : (PropertyFacts.readModern name a).outcome = .ok (some facts)) :
    Nonempty (ModernReading name a facts) := by
  unfold PropertyFacts.readModern at h
  obtain ⟨transient, htransient, h⟩ := Report.outcome_andThen_eq_ok.mp h
  cases transient with
  | true => cases h
  | false =>
    obtain ⟨kind, hkind, h⟩ := Report.outcome_andThen_eq_ok.mp h
    obtain ⟨common, hcommon, h⟩ := Report.outcome_andThen_eq_ok.mp h
    obtain ⟨identified, hidentified, h⟩ := Report.outcome_andThen_eq_ok.mp h
    obtain ⟨read, hread, h⟩ := Report.outcome_andThen_eq_ok.mp h
    cases h
    exact ⟨{
      kind, common, identified
      persistent := htransient
      kind_read := hkind
      common_read := modernCommon_of_read hcommon
      identified_read := identifiedFrom_of_modernWithGenerator hidentified
      related := modernRelated_of_read hread }⟩

/-- No step after the first changes the kind. -/
theorem ModernReading.kind_eq (r : ModernReading name a facts) : facts.kind = r.kind :=
  r.related.kind_eq.trans (r.identified_read.kind_eq.trans r.common_read.kind)

/-- The kind that `modernKind` gives is that of a mark or of the first relationship key that is
present, or else that of a column. -/
theorem modernKind_cases (h : modernKind a = .ok kind) :
    kind = .id ∨ kind = .version ∨ kind = .column ∨
      ∃ key k, modernRelation? a = some (key, k) ∧ kind = .association k := by
  unfold modernKind at h
  obtain ⟨isId, -, h⟩ := bind_eq_ok.mp h
  split at h
  · cases h
    exact Or.inl rfl
  · obtain ⟨isVersion, -, h⟩ := bind_eq_ok.mp h
    split at h
    · cases h
      exact Or.inr (Or.inl rfl)
    · split at h
      · next key k hrelation =>
        cases h
        exact Or.inr (Or.inr (Or.inr ⟨key, k, hrelation, rfl⟩))
      · cases h
        exact Or.inr (Or.inr (Or.inl rfl))

/-- Where a relationship is declared, there is a key that it is declared under. -/
theorem modernRelation_of_association {k : AssociationKind}
    (h : modernKind a = .ok (.association k)) : ∃ key, modernRelation? a = some (key, k) := by
  rcases modernKind_cases h with hkind | hkind | hkind | ⟨key, k', hkey, hkind⟩
  · cases hkind
  · cases hkind
  · cases hkind
  · cases hkind
    exact ⟨key, hkey⟩

/-! ## Soundness -/

/-- No bare collection, and no blank strategy. -/
structure PropertyFacts.Sound (facts : PropertyFacts) : Prop where
  kind : facts.kind ≠ .collection
  strategy : ∀ s ∈ facts.generator.strategy, Text.isBlank s = false

/-- If `text?` gives a text, then it is not blank. -/
theorem not_blank_of_text? {key : String} {text : Option String} (h : a.text? key = .ok text) :
    ∀ s ∈ text, Text.isBlank s = false := by
  intro s hs
  cases hs
  exact isBlank_of_text? h

/-- A property that had no generator has no blank strategy after the step, where none that `read`
gives is blank. -/
theorem PropertyFacts.IdentifiedFrom.strategy {read : Report GeneratorFacts}
    (h : facts.IdentifiedFrom read facts') (hnone : facts.generator = {})
    (hread : ∀ g, read.outcome = .ok g → ∀ s ∈ g.strategy, Text.isBlank s = false) :
    ∀ s ∈ facts'.generator.strategy, Text.isBlank s = false := by
  cases h with
  | identifier _ hgenerator => exact hread _ hgenerator
  | other =>
    rw [hnone]
    exact nofun

/-- Facts of the flat vocabulary are sound: bare collections are passed over, and the flag `id`
makes no collection. -/
theorem ClassicReading.sound (r : ClassicReading name a facts) : facts.Sound := by
  constructor
  · rw [r.kind_eq]
    split
    · simp
    · exact r.notCollection
  · rw [r.related.generator_eq]
    exact r.identified_read.strategy r.common_read.generator fun g hg =>
      not_blank_of_text? (classicFrom_of_classicGenerator hg).strategy

/-- Facts of the structured vocabulary are sound: no mark and no relationship declares a bare
collection. -/
theorem ModernReading.sound (r : ModernReading name a facts) : facts.Sound := by
  constructor
  · rw [r.kind_eq]
    rcases modernKind_cases r.kind_read with hkind | hkind | hkind | ⟨_, _, -, hkind⟩
    all_goals simp [hkind]
  · rw [r.related.generator_eq]
    exact r.identified_read.strategy r.common_read.generator fun g hg =>
      not_blank_of_text? (modernFrom_of_modernGenerator hg).strategy

/-- Facts that `PropertyFacts.read` gives are sound, whatever the dialect. -/
theorem sound_of_read (h : (PropertyFacts.read name dialect a).outcome = .ok (some facts)) :
    facts.Sound := by
  cases dialect with
  | classic =>
    obtain ⟨r⟩ := nonempty_classicReading h
    exact r.sound
  | modern =>
    obtain ⟨r⟩ := nonempty_modernReading h
    exact r.sound

end OrmMapping
