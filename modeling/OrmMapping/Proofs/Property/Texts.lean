import OrmMapping.Proofs.Property.Coherence

/-!
# The texts of a property

Whatever a property says about itself, each of the texts that are read of it is absent or says
something, and the rules make no blank text of them. So it makes no difference whether a rule asks
if a text is there or if it is empty.

* `Filled`, `AllFilled`: texts that are absent or say something;
* `nonEmpty?_of_filled`: for these, to be there and not to be empty are the same;
* `PropertyFacts.texts`, `PropertyFacts.filled_of_read`: the texts that either vocabulary reads;
* `MappedProperty.texts`, `MappedProperty.filled_of_ofFacts`: the texts that the rules make of them.
-/

namespace OrmMapping

variable {a column joinColumn : Annotations} {key name : String} {kind : FieldKind}
  {dialect : Dialect} {text : Option String} {ts ts' : List (Option String)}
  {facts facts' : PropertyFacts} {decl : PropertyDecl} {entity : String} {p : MappedProperty}

/-! ## Texts that say something -/

/-- Absent, or a text that is not blank. -/
def Filled (text : Option String) : Prop :=
  ∀ s ∈ text, Text.isBlank s = false

/-- Each of the texts is absent or not blank. -/
def AllFilled (texts : List (Option String)) : Prop :=
  ∀ text ∈ texts, Filled text

/-- An absent text counts as filled. -/
theorem filled_none : Filled none := nofun

/-- A text that is not blank is filled. -/
theorem filled_some {s : String} (h : Text.isBlank s = false) : Filled (some s) := by
  rintro _ ⟨⟩
  exact h

/-- If `f` makes no text blank, then it keeps texts filled. -/
theorem Filled.map {f : String → String} (h : Filled text)
    (hf : ∀ s, Text.isBlank s = false → Text.isBlank (f s) = false) : Filled (text.map f) := by
  intro s hs
  obtain ⟨t, ht, rfl⟩ := Option.map_eq_some_iff.mp hs
  exact hf t (h t ht)

/-- A text that says something is not empty. -/
theorem ne_empty_of_not_blank {s : String} (h : Text.isBlank s = false) : s ≠ "" := by
  rintro rfl
  cases h

/-- If `text` is filled, then asking whether it is there and asking whether it is empty come to the
same. -/
theorem nonEmpty?_of_filled (h : Filled text) : nonEmpty? text = text := by
  cases text with
  | none => rfl
  | some s => simp [nonEmpty?, ne_empty_of_not_blank (h s rfl)]

@[simp] theorem allFilled_nil : AllFilled [] :=
  List.forall_mem_nil _

@[simp] theorem allFilled_cons : AllFilled (text :: ts) ↔ Filled text ∧ AllFilled ts :=
  List.forall_mem_cons

@[simp] theorem allFilled_append :
    AllFilled (ts ++ ts') ↔ AllFilled ts ∧ AllFilled ts' :=
  List.forall_mem_append

/-- The texts of a part that may be absent are filled if those of the part are. -/
theorem allFilled_flatMap_toList {α : Type} {part : Option α} {textsOf : α → List (Option String)}
    (h : ∀ x ∈ part, AllFilled (textsOf x)) : AllFilled (part.toList.flatMap textsOf) := by
  intro text htext
  obtain ⟨x, hx, htext⟩ := List.mem_flatMap.mp htext
  exact h x (Option.mem_toList.mp hx) text htext

/-! ## Reading -/

/-- What `text?` reads is filled. -/
theorem filled_of_text? (h : a.text? key = .ok text) : Filled text :=
  not_blank_of_text? h

/-- What is found first under several keys is filled. -/
theorem filled_of_firstText? {keys : List String} (h : a.firstText? keys = .ok text) :
    Filled text := by
  -- on the keys: the first one with a text decides
  induction keys with
  | nil =>
    cases h
    exact filled_none
  | cons key rest ih =>
    obtain ⟨first, hfirst, h⟩ := bind_eq_ok.mp h
    cases first with
    | none => exact ih h
    | some s =>
      cases h
      exact filled_of_text? hfirst

/-- The database type is filled: the bare key stands for `varchar`. -/
theorem filled_of_sqlType? (h : a.sqlType? = .ok text) : Filled text := by
  unfold Annotations.sqlType? at h
  split at h
  · obtain ⟨declared, hdeclared, rfl⟩ := map_eq_ok.mp h
    refine filled_some ?_
    cases declared with
    | none => decide
    | some s => exact isBlank_of_text? hdeclared
  · cases h
    exact filled_none

/-- The texts on the column. -/
def ColumnFacts.texts (column : ColumnFacts) : List (Option String) :=
  [column.name, column.defaultValue, column.table, column.uniqueKey]

/-- The texts on the making of identifiers. -/
def GeneratorFacts.texts (generator : GeneratorFacts) : List (Option String) :=
  [generator.strategy, generator.sequence, generator.selectKey]

/-- The texts on the target of a relationship. -/
def TargetFacts.texts (target : TargetFacts) : List (Option String) :=
  [target.entity, target.lazy, target.foreignKeyColumn, target.foreignKeyName]

/-- The texts on a relationship of any kind. -/
def RelationFacts.texts (relation : RelationFacts) : List (Option String) :=
  [relation.mappedBy, relation.cascade, relation.fetch, relation.orderBy, relation.condition]

/-- The texts on the keys and values of a collection. -/
def CollectionFacts.texts (collection : CollectionFacts) : List (Option String) :=
  [collection.keyColumn, collection.keyType, collection.keyFormula, collection.elementColumn,
    collection.elementType, collection.elementFormula]

/-- The texts on the table between two entities. -/
def LinkFacts.texts (link : LinkFacts) : List (Option String) :=
  [link.table, link.schema, link.catalog, link.inverseJoinColumn]

/-- All texts that are read of a property. -/
def PropertyFacts.texts (facts : PropertyFacts) : List (Option String) :=
  [facts.fieldTag, facts.ormType, facts.sqlType, facts.declaredType, facts.dataType, facts.formula,
    facts.unsavedValue] ++
  (facts.column.texts ++ (facts.generator.texts ++ (facts.target.texts ++ (facts.relation.texts ++
    (facts.collection.texts ++ facts.link.texts)))))

/-! ### Groups of facts -/

/-- The texts on a column that stands in `a` are filled. -/
theorem ColumnFacts.ReadFrom.filled {nameKey defaultKey : String} {column : ColumnFacts}
    (h : column.ReadFrom a nameKey defaultKey) : AllFilled column.texts := by
  simp only [ColumnFacts.texts, allFilled_cons, allFilled_nil, and_true]
  exact ⟨filled_of_text? h.name, filled_of_text? h.defaultValue, filled_of_text? h.table,
    filled_of_text? h.uniqueKey⟩

/-- The texts on a relationship that stands in `a` are filled. -/
theorem RelationFacts.ReadFrom.filled {relation : RelationFacts} (h : relation.ReadFrom a) :
    AllFilled relation.texts := by
  simp only [RelationFacts.texts, allFilled_cons, allFilled_nil, and_true]
  exact ⟨filled_of_text? h.mappedBy, filled_of_text? h.cascade, filled_of_text? h.fetch,
    filled_of_text? h.orderBy, filled_of_text? h.condition⟩

/-- The texts on the keys and values of a collection that stand in `a` are filled. -/
theorem CollectionFacts.ReadFrom.filled {collection : CollectionFacts}
    (h : collection.ReadFrom a) : AllFilled collection.texts := by
  simp only [CollectionFacts.texts, allFilled_cons, allFilled_nil, and_true]
  exact ⟨filled_of_text? h.keyColumn, filled_of_text? h.keyType, filled_of_text? h.keyFormula,
    filled_of_text? h.elementColumn, filled_of_text? h.elementType,
    filled_of_text? h.elementFormula⟩

/-- The texts on a link table that stands in `a` are filled, whatever the keys are. -/
theorem LinkFacts.ReadFrom.filled {tableKey schemaKey catalogKey : String} {link : LinkFacts}
    (h : link.ReadFrom a tableKey schemaKey catalogKey) : AllFilled link.texts := by
  simp only [LinkFacts.texts, allFilled_cons, allFilled_nil, and_true]
  exact ⟨filled_of_text? h.table, filled_of_text? h.schema, filled_of_text? h.catalog,
    filled_of_text? h.inverseJoinColumn⟩

/-- Groups of facts that are not read have no texts. -/
theorem allFilled_unset :
    AllFilled (GeneratorFacts.texts {}) ∧ AllFilled (TargetFacts.texts {}) ∧
      AllFilled (RelationFacts.texts {}) ∧ AllFilled (CollectionFacts.texts {}) ∧
      AllFilled (LinkFacts.texts {}) := by
  simp [GeneratorFacts.texts, TargetFacts.texts, RelationFacts.texts, CollectionFacts.texts,
    LinkFacts.texts, filled_none]

/-- If the texts of `facts` and of `generator` are filled, then so are those of `facts` with
`generator`. -/
theorem PropertyFacts.filled_withGenerator {generator : GeneratorFacts}
    (h : AllFilled facts.texts) (hgenerator : AllFilled generator.texts) :
    AllFilled { facts with generator }.texts := by
  -- only the texts of the generator are replaced
  simp only [PropertyFacts.texts, allFilled_append] at h ⊢
  exact ⟨h.1, h.2.1, hgenerator, h.2.2.2⟩

/-- If the texts of `facts` and of the four groups of a relationship are filled, then so are those
of `facts` with these groups. -/
theorem PropertyFacts.filled_withRelation {notNull : Bool} {target : TargetFacts}
    {relation : RelationFacts} {collection : CollectionFacts} {link : LinkFacts}
    (h : AllFilled facts.texts) (htarget : AllFilled target.texts)
    (hrelation : AllFilled relation.texts) (hcollection : AllFilled collection.texts)
    (hlink : AllFilled link.texts) :
    AllFilled { facts with notNull, target, relation, collection, link }.texts := by
  simp only [PropertyFacts.texts, allFilled_append] at h ⊢
  exact ⟨h.1, h.2.1, h.2.2.1, htarget, hrelation, hcollection, hlink⟩

/-- The step that adds a generator keeps the texts filled, where those that `read` gives are. -/
theorem PropertyFacts.IdentifiedFrom.filled {read : Report GeneratorFacts}
    (h : facts.IdentifiedFrom read facts') (hfacts : AllFilled facts.texts)
    (hread : ∀ g, read.outcome = .ok g → AllFilled g.texts) : AllFilled facts'.texts := by
  cases h with
  | identifier _ hgenerator => exact PropertyFacts.filled_withGenerator hfacts (hread _ hgenerator)
  | other => exact hfacts

/-! ### The flat vocabulary -/

/-- The texts on a target that stands in the flat set `a` are filled. -/
theorem TargetFacts.ClassicFrom.filled {target : TargetFacts} (h : target.ClassicFrom a) :
    AllFilled target.texts := by
  simp only [TargetFacts.texts, allFilled_cons, allFilled_nil, and_true]
  exact ⟨filled_of_firstText? h.entity, filled_of_text? h.lazy,
    filled_of_text? h.foreignKeyColumn, filled_of_firstText? h.foreignKeyName⟩

/-- The texts on a generator that stands in the flat set `a` are filled. -/
theorem GeneratorFacts.ClassicFrom.filled {generator : GeneratorFacts}
    (h : generator.ClassicFrom a) : AllFilled generator.texts := by
  simp only [GeneratorFacts.texts, allFilled_cons, allFilled_nil, and_true]
  exact ⟨filled_of_text? h.strategy, filled_of_text? h.sequence, filled_of_text? h.selectKey⟩

/-- The texts that `classicCommon` reads are filled. -/
theorem PropertyFacts.ClassicCommon.filled (h : facts.ClassicCommon name kind a) :
    AllFilled facts.texts := by
  have hdata : Filled facts.dataType := by
    have hread := h.dataType
    split at hread
    · exact filled_of_text? hread
    · rw [← pure_eq_ok.mp hread]
      exact filled_none
  simp only [PropertyFacts.texts, allFilled_append, allFilled_cons, allFilled_nil, and_true]
  rw [h.generator, h.target, h.relation, h.collection, h.link]
  exact ⟨⟨filled_of_text? h.fieldTag, filled_of_text? h.ormType, filled_of_sqlType? h.sqlType,
    filled_of_text? h.declaredType, hdata, filled_of_text? h.formula,
    filled_of_text? h.unsavedValue⟩, h.column.filled, allFilled_unset⟩

/-- The last step of the flat vocabulary keeps the texts filled. -/
theorem PropertyFacts.ClassicRelated.filled (h : facts.ClassicRelated a facts')
    (hfacts : AllFilled facts.texts) : AllFilled facts'.texts := by
  cases h with
  | relationship _ _ htarget hrelation hcollection hlink =>
    exact PropertyFacts.filled_withRelation hfacts htarget.filled hrelation.filled
      hcollection.filled hlink.filled
  | plain => exact hfacts

/-- All texts that the flat vocabulary gives are filled: each step keeps them so. -/
theorem ClassicReading.filled (r : ClassicReading name a facts) : AllFilled facts.texts :=
  r.related.filled <| r.identified_read.filled r.common_read.filled fun _ h =>
    (classicFrom_of_classicGenerator h).filled

/-! ### The structured vocabulary -/

/-- The database type is filled, whether the property or its column declares it. -/
theorem filled_of_modernSqlType? (h : modernSqlType? a column = .ok text) : Filled text := by
  obtain ⟨own, hown, h⟩ := bind_eq_ok.mp h
  cases own with
  -- the column's type counts where the property has none
  | none => exact filled_of_sqlType? h
  | some s =>
    cases h
    exact filled_of_sqlType? hown

/-- The texts on a target that stands in `a` and in `joinColumn` are filled. -/
theorem TargetFacts.ModernFrom.filled {target : TargetFacts} (h : target.ModernFrom a joinColumn) :
    AllFilled target.texts := by
  simp only [TargetFacts.texts, allFilled_cons, allFilled_nil, and_true]
  exact ⟨filled_of_firstText? h.entity, filled_of_text? h.lazy,
    filled_of_text? h.foreignKeyColumn, filled_of_text? h.foreignKeyName⟩

/-- The texts on a generator that stands in a nested set of `a` are filled. -/
theorem GeneratorFacts.ModernFrom.filled {generator : GeneratorFacts}
    (h : generator.ModernFrom a) : AllFilled generator.texts := by
  simp only [GeneratorFacts.texts, allFilled_cons, allFilled_nil, and_true]
  exact ⟨filled_of_text? h.strategy, filled_of_text? h.sequence, filled_of_text? h.selectKey⟩

/-- The texts that `modernCommon` reads are filled. -/
theorem PropertyFacts.ModernCommon.filled (h : facts.ModernCommon name kind a) :
    AllFilled facts.texts := by
  simp only [PropertyFacts.texts, allFilled_append, allFilled_cons, allFilled_nil, and_true]
  rw [h.fieldTag, h.dataType, h.generator, h.target, h.relation, h.collection, h.link]
  exact ⟨⟨filled_none, filled_of_text? h.ormType, filled_of_modernSqlType? h.sqlType,
    filled_of_text? h.declaredType, filled_none, filled_of_text? h.formula,
    filled_of_text? h.unsavedValue⟩, h.column.filled, allFilled_unset⟩

/-- The last step of the structured vocabulary keeps the texts filled. -/
theorem PropertyFacts.ModernRelated.filled (h : facts.ModernRelated a facts')
    (hfacts : AllFilled facts.texts) : AllFilled facts'.texts := by
  cases h with
  | relationship _ _ htarget _ hrelation hcollection hlink =>
    exact PropertyFacts.filled_withRelation hfacts htarget.filled hrelation.filled
      hcollection.filled hlink.filled
  | plain => exact hfacts

/-- All texts that the structured vocabulary gives are filled: each step keeps them so. -/
theorem ModernReading.filled (r : ModernReading name a facts) : AllFilled facts.texts :=
  r.related.filled <| r.identified_read.filled r.common_read.filled fun _ h =>
    (modernFrom_of_modernGenerator h).filled

/-- Whichever vocabulary a property is declared in, the texts that are read of it are absent or say
something. -/
theorem PropertyFacts.filled_of_read
    (h : (PropertyFacts.read name dialect a).outcome = .ok (some facts)) :
    AllFilled facts.texts := by
  cases dialect with
  | classic =>
    obtain ⟨r⟩ := nonempty_classicReading h
    exact r.filled
  | modern =>
    obtain ⟨r⟩ := nonempty_modernReading h
    exact r.filled

/-! ## Mapping -/

/-- The texts of a column; its name may be that of the property, whatever it is. -/
def Column.texts (column : Column) : List (Option String) :=
  [column.defaultValue, column.table, column.sqlType, column.uniqueKey]

/-- The texts of a generator. -/
def Generator.texts (g : Generator) : List (Option String) :=
  [g.sequence, g.selectKey]

/-- The declared texts that a type comes from. -/
def MappedType.texts (type : MappedType) : List (Option String) :=
  [type.declared, type.sqlType, type.engineType, type.fieldTag]

/-- The texts of a column of keys or values. -/
def CollectionColumn.texts (column : CollectionColumn) : List (Option String) :=
  [column.column, some column.type, column.formula]

/-- The texts of a relationship. -/
def Association.texts (r : Association) : List (Option String) :=
  [some r.target, r.targetEntity, r.mappedBy, r.foreignKeyColumn, r.foreignKeyName, r.cascade,
    r.fetch, r.lazy, r.inverseJoinColumn, r.orderBy, r.condition, some r.collectionTag] ++
  ([r.linkTable, r.linkSchema, r.linkCatalog] ++
    (r.mapKey.toList.flatMap (·.texts) ++ r.element.toList.flatMap (·.texts)))

/-- The texts of a mapped property but for its names. -/
def MappedProperty.texts (p : MappedProperty) : List (Option String) :=
  [p.formula, p.unsavedValue] ++
  (p.type.texts ++ (p.column.toList.flatMap (·.texts) ++ (p.generator.toList.flatMap (·.texts) ++
    p.association.toList.flatMap (·.texts))))

/-- The rule for generators keeps texts filled. -/
theorem Generator.filled_of_ofFacts {generator : GeneratorFacts} {g : Generator}
    (hfacts : AllFilled generator.texts) (h : Generator.ofFacts generator a = .ok g) :
    AllFilled g.texts := by
  simp only [GeneratorFacts.texts, allFilled_cons, allFilled_nil, and_true] at hfacts
  obtain ⟨-, hsequence, hkey⟩ := hfacts
  unfold Generator.ofFacts at h
  dsimp only at h
  split at h
  · cases h
  · cases h
    simp only [Generator.texts, allFilled_cons, allFilled_nil, and_true]
    exact ⟨hsequence, hkey⟩

/-- The rule for types keeps the declared texts filled. -/
theorem MappedType.filled_of_ofFacts {generator : Option Generator} {type : MappedType}
    (hfacts : AllFilled facts.texts)
    (h : (MappedType.ofFacts facts generator a).outcome = .ok type) : AllFilled type.texts := by
  simp only [PropertyFacts.texts, allFilled_append, allFilled_cons, allFilled_nil] at hfacts
  obtain ⟨⟨htag, horm, hsql, hdeclared, -⟩, -⟩ := hfacts
  have hread : AllFilled [facts.declaredType, facts.sqlType, facts.ormType, facts.fieldTag] := by
    simp only [allFilled_cons, allFilled_nil, and_true]
    exact ⟨hdeclared, hsql, horm, htag⟩
  unfold MappedType.ofFacts at h
  dsimp only at h
  split at h
  · obtain ⟨_, -, h⟩ := Report.outcome_andThen_eq_ok.mp h
    cases h
    exact hread
  · cases h
    exact hread

/-- The rule for columns keeps texts filled, whatever the kind. -/
theorem Column.filled_of_ofFacts? {column : Column} (hfacts : AllFilled facts.texts)
    (h : Column.ofFacts? facts kind = some column) : AllFilled column.texts := by
  simp only [PropertyFacts.texts, ColumnFacts.texts, allFilled_append, allFilled_cons,
    allFilled_nil, and_true] at hfacts
  obtain ⟨⟨-, -, hsql, -⟩, ⟨-, hdefault, htable, hkey⟩, -⟩ := hfacts
  unfold Column.ofFacts? at h
  split at h
  · -- the column of a foreign key has a name only
    obtain ⟨name, -, rfl⟩ := Option.map_eq_some_iff.mp h
    simp [Column.texts, filled_none]
  · cases h
  · cases h
    simp only [Column.texts, allFilled_cons, allFilled_nil, and_true]
    exact ⟨hdefault, htable, hsql, hkey⟩

/-! ### Relationships -/

/-- The mode of loading is filled if the text that declares it is. -/
theorem filled_lazyMode {k : AssociationKind} (h : Filled text) : Filled (lazyMode k text) := by
  refine h.map fun s hs => ?_
  dsimp only
  split
  · decide
  · exact Text.isBlank_lower hs

/-- The type of keys or values is the declared one or the standard, and filled in either case. -/
theorem filled_of_collectionType {type : String} (h : Filled text)
    (htype : (collectionType facts a key text).outcome = .ok type) : Filled (some type) := by
  unfold collectionType at htype
  split at htype
  · cases htype
    exact h
  · cases htype
    exact filled_some (by decide)

/-- The keys of a map have filled texts. -/
theorem filled_of_mapKeyColumn {column : Option CollectionColumn}
    (hfacts : AllFilled facts.collection.texts)
    (h : (mapKeyColumn facts a).outcome = .ok column) : ∀ c ∈ column, AllFilled c.texts := by
  simp only [CollectionFacts.texts, allFilled_cons] at hfacts
  obtain ⟨hkey, hkeyType, hkeyFormula, -⟩ := hfacts
  unfold mapKeyColumn at h
  split at h
  · cases h
    simp
  · split at h
    · cases h
    · obtain ⟨type, htype, h⟩ := Report.outcome_andThen_eq_ok.mp h
      cases h
      rintro _ ⟨⟩
      simp only [CollectionColumn.texts, allFilled_cons, allFilled_nil, and_true]
      exact ⟨hkey, filled_of_collectionType hkeyType htype, hkeyFormula⟩

/-- The values of a collection have filled texts. -/
theorem filled_of_elementColumn {column : Option CollectionColumn}
    (hfacts : AllFilled facts.collection.texts)
    (h : (elementColumn facts a).outcome = .ok column) : ∀ c ∈ column, AllFilled c.texts := by
  simp only [CollectionFacts.texts, allFilled_cons, allFilled_nil, and_true] at hfacts
  obtain ⟨-, -, -, helement, helementType, helementFormula⟩ := hfacts
  unfold elementColumn at h
  split at h
  · cases h
    simp
  · obtain ⟨type, htype, h⟩ := Report.outcome_andThen_eq_ok.mp h
    cases h
    rintro _ ⟨⟩
    simp only [CollectionColumn.texts, allFilled_cons, allFilled_nil, and_true]
    exact ⟨helement, filled_of_collectionType helementType htype, helementFormula⟩

/-- The rules for a relationship keep texts filled. -/
theorem Association.filled_of_ofFacts {declared : AssociationKind} {r : Association}
    (hfacts : AllFilled facts.texts) (h : (Association.ofFacts facts declared a).outcome = .ok r) :
    AllFilled r.texts := by
  simp only [PropertyFacts.texts, allFilled_append] at hfacts
  obtain ⟨-, -, -, htarget, hrelation, hcollection, hlink⟩ := hfacts
  simp only [TargetFacts.texts, allFilled_cons, allFilled_nil, and_true] at htarget
  simp only [RelationFacts.texts, allFilled_cons, allFilled_nil, and_true] at hrelation
  simp only [LinkFacts.texts, allFilled_cons, allFilled_nil, and_true] at hlink
  obtain ⟨hentity, hlazy, hcolumn, hname⟩ := htarget
  obtain ⟨hmapped, hcascade, hfetch, horder, hcondition⟩ := hrelation
  obtain ⟨htable, hschema, hcatalog, hinverse⟩ := hlink
  unfold Association.ofFacts at h
  dsimp only at h
  split at h
  · cases h
  · -- a relationship without a target is refused
    next target htold =>
    rw [htold] at hentity
    have htag : ∀ mapped : Bool, Filled (some (if mapped then "map" else "bag")) := fun mapped =>
      filled_some (by cases mapped <;> decide)
    split at h
    -- the keys, the values and the table are those of a collection, or there are none
    all_goals
      obtain ⟨mapKey, hmapKey, h⟩ := Report.outcome_andThen_eq_ok.mp h
      obtain ⟨element, helement, h⟩ := Report.outcome_andThen_eq_ok.mp h
      cases h
      simp only [Association.texts, allFilled_append, allFilled_cons, allFilled_nil, and_true]
      refine ⟨⟨hentity, filled_none, hmapped, hcolumn, hname, hcascade, hfetch,
        filled_lazyMode hlazy, hinverse, horder, hcondition, htag _⟩, ?_,
        allFilled_flatMap_toList ?_, allFilled_flatMap_toList ?_⟩
    · exact ⟨htable, hschema, hcatalog⟩
    · exact filled_of_mapKeyColumn hcollection hmapKey
    · exact filled_of_elementColumn hcollection helement
    · exact ⟨filled_none, filled_none, filled_none⟩
    · cases hmapKey
      simp
    · cases helement
      simp

/-! ### Properties -/

/-- A generator that there is has filled texts. -/
theorem PropertyFacts.filled_of_generator? {generator : Option Generator}
    (hfacts : AllFilled facts.texts) (h : facts.generator? a = .ok generator) :
    ∀ g ∈ generator, AllFilled g.texts := by
  simp only [PropertyFacts.texts, allFilled_append] at hfacts
  obtain ⟨-, -, hgenerator, -⟩ := hfacts
  unfold PropertyFacts.generator? at h
  split at h
  · obtain ⟨g, hg, rfl⟩ := map_eq_ok.mp h
    rintro _ ⟨⟩
    exact Generator.filled_of_ofFacts hgenerator hg
  · cases h
    simp

/-- A relationship that there is has filled texts. -/
theorem PropertyFacts.filled_of_association? {association : Option Association}
    (hfacts : AllFilled facts.texts) (h : (facts.association? a).outcome = .ok association) :
    ∀ r ∈ association, AllFilled r.texts := by
  unfold PropertyFacts.association? at h
  split at h
  · obtain ⟨r, hr, h⟩ := Report.outcome_andThen_eq_ok.mp h
    cases h
    rintro _ ⟨⟩
    exact Association.filled_of_ofFacts hfacts hr
  · cases h
    simp

/-- A formula in parentheses is filled if the formula is. -/
theorem filled_parenthesized (h : Filled text) :
    Filled (text.map fun formula => "(" ++ formula ++ ")") :=
  h.map fun _ hs => Text.isBlank_append_left ")" (Text.isBlank_append_right "(" hs)

/-- The rules make no blank text of facts whose texts are filled. -/
theorem MappedProperty.filled_of_ofFacts (hfacts : AllFilled facts.texts)
    (h : (MappedProperty.ofFacts facts a).outcome = .ok p) : AllFilled p.texts := by
  unfold MappedProperty.ofFacts at h
  obtain ⟨generator, hgenerator, h⟩ := Report.outcome_andThen_eq_ok.mp h
  obtain ⟨association, hassociation, h⟩ := Report.outcome_andThen_eq_ok.mp h
  obtain ⟨type, htype, h⟩ := Report.outcome_andThen_eq_ok.mp h
  cases h
  have hgenerators := PropertyFacts.filled_of_generator? hfacts hgenerator
  have hassociations := PropertyFacts.filled_of_association? hfacts hassociation
  have htypes := MappedType.filled_of_ofFacts hfacts htype
  -- a property has a column unless a formula takes its place
  have hcolumns (kind : FieldKind) : ∀ column ∈
      (if facts.formula.isNone then Column.ofFacts? facts kind else none),
      AllFilled column.texts := by
    intro column hcolumn
    split at hcolumn
    · exact Column.filled_of_ofFacts? hfacts hcolumn
    · cases hcolumn
  simp only [PropertyFacts.texts, allFilled_append, allFilled_cons, allFilled_nil] at hfacts
  obtain ⟨⟨-, -, -, -, -, hformula, hunsaved, -⟩, -⟩ := hfacts
  simp only [MappedProperty.texts, allFilled_append, allFilled_cons, allFilled_nil, and_true]
  exact ⟨⟨filled_parenthesized hformula, hunsaved⟩, htypes,
    allFilled_flatMap_toList (hcolumns _), allFilled_flatMap_toList hgenerators,
    allFilled_flatMap_toList hassociations⟩

/-- Whatever the annotations of a declaration say, no text of what it is mapped to is blank. -/
theorem MappedProperty.filled_of_ofDecl
    (h : (MappedProperty.ofDecl decl dialect entity).outcome = .ok (some p)) :
    AllFilled p.texts := by
  unfold MappedProperty.ofDecl at h
  obtain ⟨facts, hfacts, h⟩ := Report.outcome_andThen_eq_ok.mp h
  cases facts with
  | none => cases h
  | some facts =>
    obtain ⟨mapped, hmapped, h⟩ := Report.outcome_andThen_eq_ok.mp h
    cases h
    exact MappedProperty.filled_of_ofFacts (PropertyFacts.filled_of_read hfacts) hmapped

end OrmMapping
