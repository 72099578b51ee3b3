import Mathlib.Data.List.Find
import OrmMapping.Proofs.Property.Agreement
import OrmMapping.Proofs.Property.Reading
import OrmMapping.Proofs.Property.Vocabulary

/-!
# Both renditions mean the same

The flat and the structured rendition of the same facts give the same mapped property, or both
none. There is one exception: a link table without a foreign key column is refused in the flat
vocabulary only.

* `SharedKind.common_agree`, `SharedKind.withGenerator_agree`, `SharedKind.withRelation_agree`: the
  three steps of reading;
* `SharedKind.renditions_agree`: the mapped properties.
-/

namespace OrmMapping

namespace SharedKind

section Sets

variable (kind : SharedKind) (values : SharedFact → Option Value) (entity name : String)

/-- The annotation set of the flat rendition. -/
def classicSet : Annotations :=
  ⟨kind.classic values, entity, some name⟩

/-- The annotation set of the structured rendition. -/
def modernSet : Annotations :=
  ⟨kind.modern values, entity, some name⟩

end Sets

variable {kind : SharedKind} {values : SharedFact → Option Value} {entity name : String}

/-! ## Where the facts stand -/

/-- A fact on the property itself stands under its keys in the two sets. -/
theorem same_own (fact : SharedFact) (hfact : fact ∈ kind.facts) (hplace : fact.place kind = .own) :
    SameEntry (kind.classicSet values entity name) fact.flatKey
      (kind.modernSet values entity name) fact.nestedKey := by
  have hcell : (fact.nestedKey, values fact) ∈ kind.modernCells values := by
    refine List.mem_append_left _ (List.mem_append_right _ ?_)
    exact List.mem_map.mpr ⟨fact, List.mem_filter.mpr ⟨hfact, beq_iff_eq.mpr hplace⟩, rfl⟩
  exact (get?_classic hfact).trans (get?_modern_of_mem hcell).symm

/-- A fact on a part of the property stands in the nested set of that part, under its nested key. -/
theorem same_nested {set : Annotations} {place : FactPlace}
    (hset : set.entries = present (kind.cellsAt values place)) (fact : SharedFact)
    (hfact : fact ∈ kind.facts) (hplace : fact.place kind = place) :
    SameEntry (kind.classicSet values entity name) fact.flatKey set fact.nestedKey := by
  have hnested : set.entries.get? fact.nestedKey = values fact := by
    rw [hset, ← hplace]
    exact get?_present_cellsAt hfact
  exact (get?_classic hfact).trans hnested.symm

/-- A nested set has nothing under a key that no fact of its place has. -/
theorem absent_nested {set : Annotations} {place : FactPlace} {key : String}
    (hset : set.entries = present (kind.cellsAt values place)) (hkey : key ∉ kind.keysAt place) :
    set.entries.get? key = none := by
  rw [hset]
  exact get?_present_cellsAt_of_not_mem hkey

/-- The set nested under `key` is the one that was written there, and empty when none was. -/
theorem nested_entries {key : String} {place : FactPlace} (shorthand : String)
    (hcell : (key, nestedSet (kind.cellsAt values place)) ∈ kind.modernCells values) :
    ((kind.modernSet values entity name).nested key shorthand).entries =
      present (kind.cellsAt values place) := by
  have hget : (kind.modernSet values entity name).entries.get? key =
      nestedSet (kind.cellsAt values place) := get?_modern_of_mem hcell
  rw [Annotations.nested, Annotations.value, hget, nestedSet]
  -- an empty set was left out, and what is absent is read as an empty set
  split
  · next hempty => exact (List.isEmpty_iff.mp hempty).symm
  · rfl

/-- The set of the column holds the facts on the column. -/
theorem column_entries :
    ((kind.modernSet values entity name).nested "column").entries =
      present (kind.cellsAt values .column) :=
  nested_entries "name" (List.mem_append_right _ (by simp))

/-- The set of the generator holds the facts on identifiers. -/
theorem generator_entries :
    ((kind.modernSet values entity name).nested "generatedvalue" "strategy").entries =
      present (kind.cellsAt values .generator) :=
  nested_entries "strategy" (List.mem_append_right _ (by simp))

/-- The set of the join column holds the facts on the foreign key. -/
theorem joinColumn_entries :
    ((kind.modernSet values entity name).nested "joincolumn").entries =
      present (kind.cellsAt values .joinColumn) :=
  nested_entries "name" (List.mem_append_right _ (by simp))

/-- The set of the join table holds the facts on the link table. -/
theorem joinTable_entries :
    ((kind.modernSet values entity name).nested "jointable").entries =
      present (kind.cellsAt values .joinTable) :=
  nested_entries "name" (List.mem_append_right _ (by simp))

/-- The set of the relationship holds the facts on the relationship itself. -/
theorem relation_entries (k : AssociationKind) :
    (((SharedKind.association k).modernSet values entity name).nested k.relationKey
      "targetentity").entries = present ((SharedKind.association k).cellsAt values .relation) := by
  have hget : ((SharedKind.association k).modern values).get? k.relationKey =
      some (.map (present ((SharedKind.association k).cellsAt values .relation))) :=
    get?_modern_of_mem List.mem_cons_self
  have hget' : ((SharedKind.association k).modernSet values entity name).entries.get?
      k.relationKey = _ := hget
  rw [Annotations.nested, Annotations.value, hget']
  rfl

/-- The flat rendition has nothing under a key that no fact has. -/
theorem absent_classic {key : String} (hkey : key ∉ kind.classicKeys) :
    (kind.classicSet values entity name).entries.get? key = none :=
  get?_classic_of_not_mem hkey

/-- The structured rendition has nothing under a key that neither a fact nor a set has. -/
theorem absent_modern {key : String} (hkey : key ∉ kind.modernKeys) :
    (kind.modernSet values entity name).entries.get? key = none :=
  get?_modern_of_not_mem hkey

/-- No rendition uses the keys by which a reader would come to other facts than those of the
table. -/
theorem foreign_keys (kind : SharedKind) :
    (∀ key ∈ ["persistent", "id", "datatype", "class", "foreignkey", "property", "generated"],
      key ∉ kind.classicKeys) ∧
    (∀ key ∈ ["unique", "nullable", "sqltype"], key ∉ kind.keysAt .column) ∧
    (∀ key ∈ ["target", "entity", "optional"], key ∉ kind.keysAt .relation) ∧
    "transient" ∉ kind.modernKeys := by
  have h : ∀ kind ∈ all,
      (∀ key ∈ ["persistent", "id", "datatype", "class", "foreignkey", "property", "generated"],
        key ∉ kind.classicKeys) ∧
      (∀ key ∈ ["unique", "nullable", "sqltype"], key ∉ kind.keysAt .column) ∧
      (∀ key ∈ ["target", "entity", "optional"], key ∉ kind.keysAt .relation) ∧
      "transient" ∉ kind.modernKeys := by
    decide +kernel
  exact h kind kind.mem_all

/-- A mark stands on the kind that it declares and on no other, and a relationship says with its
entity how it is loaded. -/
theorem mark_keys (kind : SharedKind) :
    (kind ≠ .id → "id" ∉ kind.modernKeys) ∧ (kind ≠ .version → "version" ∉ kind.modernKeys) ∧
    ∀ pair ∈ relationKeys,
      (kind ≠ .association pair.2 → pair.1 ∉ kind.modernKeys) ∧
      (kind = .association pair.2 → "lazy" ∉ kind.modernKeys ∧ pair.1 = pair.2.relationKey) := by
  have h : ∀ kind ∈ all,
      (kind ≠ .id → "id" ∉ kind.modernKeys) ∧ (kind ≠ .version → "version" ∉ kind.modernKeys) ∧
      ∀ pair ∈ relationKeys,
        (kind ≠ .association pair.2 → pair.1 ∉ kind.modernKeys) ∧
        (kind = .association pair.2 → "lazy" ∉ kind.modernKeys ∧ pair.1 = pair.2.relationKey) := by
    decide +kernel
  exact h kind kind.mem_all

/-- Each kind of relationship has its key in the list. -/
theorem mem_relationKeys (k : AssociationKind) : (k.relationKey, k) ∈ relationKeys := by
  cases k <;> decide

/-! ## Marks -/

/-- An identifier is marked in its structured rendition, and so is a version. -/
theorem flag_of_mark {key : String} (h : (key, some (.bool true)) ∈ kind.markCells values) :
    (kind.modernSet values entity name).flag key = .ok true := by
  have hget : (kind.modernSet values entity name).entries.get? key = some (.bool true) :=
    get?_modern_of_mem (List.mem_append_left _ (List.mem_append_left _ h))
  rw [Annotations.flag, hget]
  rfl

/-- No other kind has the mark of an identifier. -/
theorem not_id (h : kind ≠ .id) : (kind.modernSet values entity name).flag "id" = .ok false :=
  flag_of_absent (absent_modern (kind.mark_keys.1 h))

/-- No other kind has the mark of a version. -/
theorem not_version (h : kind ≠ .version) :
    (kind.modernSet values entity name).flag "version" = .ok false :=
  flag_of_absent (absent_modern (kind.mark_keys.2.1 h))

/-- A rendition has the key of a relationship exactly when it is of that kind. -/
theorem has_relationKey {pair : String × AssociationKind} (hpair : pair ∈ relationKeys) :
    (kind.modernSet values entity name).has pair.1 = decide (kind = .association pair.2) := by
  -- the key of the kind itself holds a set, and the keys of all others are absent
  by_cases h : kind = .association pair.2
  · have hkey := ((kind.mark_keys.2.2 pair hpair).2 h).2
    subst h
    have hget : ((SharedKind.association pair.2).modern values).get? pair.2.relationKey =
        some _ := get?_modern_of_mem List.mem_cons_self
    rw [Annotations.has, Keyed.has, modernSet, hkey, hget, Option.isSome_some, decide_eq_true rfl]
  · have habsent := (kind.mark_keys.2.2 pair hpair).1 h
    rw [has_of_absent (absent_modern habsent), decide_eq_false h]

/-- On a relationship, the property itself does not say `lazy`. -/
theorem lazy_of_association (k : AssociationKind) :
    ((SharedKind.association k).modernSet values entity name).flag "lazy" = .ok false :=
  flag_of_absent
    (absent_modern (((mark_keys _).2.2 _ (mem_relationKeys k)).2 rfl).1)

/-! ## What the property is -/

/-- The words for the kinds are read as they stand, and name their kinds. -/
theorem kindWord (kind : SharedKind) :
    Text.isBlank kind.fieldKind.name = false ∧
    Text.trim kind.fieldKind.name = kind.fieldKind.name ∧
    FieldKind.ofName? (Text.lower kind.fieldKind.name) = some kind.fieldKind := by
  have h : ∀ kind ∈ all, Text.isBlank kind.fieldKind.name = false ∧
      Text.trim kind.fieldKind.name = kind.fieldKind.name ∧
      FieldKind.ofName? (Text.lower kind.fieldKind.name) = some kind.fieldKind := by
    decide +kernel
  exact h kind kind.mem_all

theorem classicTag_eq :
    (kind.classicSet values entity name).text? "fieldtype" = .ok (some kind.fieldKind.name) :=
  text?_of_str get?_classic_fieldtype kind.kindWord.1 kind.kindWord.2.1

/-- The flat rendition declares its kind. -/
theorem classicKind_eq :
    classicKind (kind.classicSet values entity name) = .ok kind.fieldKind := by
  have hname : FieldKind.ofName? (Text.lower
      ((some kind.fieldKind.name).getD FieldKind.column.name)) = some kind.fieldKind :=
    kind.kindWord.2.2
  simp only [classicKind, classicTag_eq, bind, Except.bind, hname]
  rfl

/-- The relationship that is found is the one of the kind, if it is one. -/
theorem modernRelation?_eq :
    modernRelation? (kind.modernSet values entity name) =
      match kind with
      | .association k => some (k.relationKey, k)
      | _ => none := by
  have hhas : ∀ pair ∈ relationKeys, (kind.modernSet values entity name).has pair.1 =
      decide (kind = .association pair.2) := fun pair => has_relationKey
  rw [modernRelation?, List.find?_congr hhas]
  cases kind with
  | association k => cases k <;> rfl
  | id => rfl
  | column => rfl
  | version => rfl

/-- The structured rendition declares its kind. -/
theorem modernKind_eq :
    modernKind (kind.modernSet values entity name) = .ok kind.fieldKind := by
  unfold modernKind
  cases kind with
  | id =>
    rw [flag_of_mark List.mem_cons_self]
    rfl
  | version =>
    rw [not_id SharedKind.noConfusion, flag_of_mark List.mem_cons_self]
    rfl
  | column =>
    rw [not_id SharedKind.noConfusion, not_version SharedKind.noConfusion, modernRelation?_eq]
    rfl
  | association k =>
    rw [not_id SharedKind.noConfusion, not_version SharedKind.noConfusion, modernRelation?_eq]
    rfl

/-! ## Reading -/

/-- The facts read from both renditions: the same but for the word that declares the kind, and with
`lazy` read in the structured one already. -/
structure SameFacts (kind : SharedKind) (lazy : Bool) (classic modern : PropertyFacts) : Prop where
  kind_eq : modern.kind = kind.fieldKind
  lazy_eq : modern.lazy = lazy
  classic_eq : classic = { modern with fieldTag := some kind.fieldKind.name, lazy := false }

/-- The first step: both readings agree in `SameFacts`, where the structured one reads `lazy`
here. -/
theorem common_agree {lazy : Bool}
    (hlazy : (kind.modernSet values entity name).flag "lazy" = .ok lazy) :
    Agree (SameFacts kind lazy)
      (classicCommon name kind.fieldKind (kind.classicSet values entity name))
      (modernCommon name kind.fieldKind (kind.modernSet values entity name)) := by
  have own : ∀ fact ∈ SharedFact.common, fact.place kind = .own →
      SameEntry (kind.classicSet values entity name) fact.flatKey
        (kind.modernSet values entity name) fact.nestedKey :=
    fun fact hfact => same_own fact (mem_facts_of_common hfact)
  have column : ∀ fact ∈ SharedFact.common, fact.place kind = .column →
      SameEntry (kind.classicSet values entity name) fact.flatKey
        ((kind.modernSet values entity name).nested "column") fact.nestedKey :=
    fun fact hfact => same_nested column_entries fact (mem_facts_of_common hfact)
  have hcolumn : ∀ key ∈ ["unique", "nullable", "sqltype"],
      ((kind.modernSet values entity name).nested "column").entries.get? key = none :=
    fun key hkey => absent_nested column_entries (kind.foreign_keys.2.1 key hkey)
  have hdata : (kind.classicSet values entity name).text? "datatype" = .ok none :=
    text?_of_absent (absent_classic (kind.foreign_keys.1 "datatype" (by decide)))
  unfold classicCommon modernCommon
  -- the word for the kind is the one fact that the structured rendition does not have
  refine .skip classicTag_eq ?_
  refine .bindEq (text?_agree (own .ormType (by decide) rfl)) fun ormType => ?_
  refine .bindEq (modernSqlType?_agree (own .sqlType (by decide) rfl)
    (hcolumn "sqltype" (by decide))) fun sqlType => ?_
  refine .bindEq (text?_agree (own .declaredType (by decide) rfl)) fun declaredType => ?_
  refine .bindEq (text?_agree (own .formula (by decide) rfl)) fun formula => ?_
  refine .bindEq (columnFacts_agree (column .columnName (by decide) rfl)
    (column .defaultValue (by decide) rfl) ?_) fun columnFacts => ?_
  · simp only [List.forall_mem_cons]
    exact ⟨column .length (by decide) rfl, column .precision (by decide) rfl,
      column .scale (by decide) rfl, column .table (by decide) rfl,
      column .uniqueKey (by decide) rfl, List.forall_mem_nil _⟩
  refine .bindEq (modernUnique_agree (own .unique (by decide) rfl)
    (hcolumn "unique" (by decide))) fun unique => ?_
  refine .bindEq (modernNotNull_agree (own .notNull (by decide) rfl)
    (hcolumn "nullable" (by decide))) fun notNull => ?_
  refine .bindEq (optionalFlag_agree (column .insertable (by decide) rfl)) fun insertable => ?_
  refine .bindEq (optionalFlag_agree (column .updatable (by decide) rfl)) fun updatable => ?_
  refine .bindEq (flag_agree (own .immutable (by decide) rfl)) fun immutable => ?_
  -- `lazy` is read here in the structured rendition, and with the relationship in the flat one
  refine .skipRight hlazy ?_
  refine .bindEq (flag_agree (own .lockSensitive (by decide) rfl) true) fun lockSensitive => ?_
  refine .bindEq (text?_agree (own .unsavedValue (by decide) rfl)) fun unsavedValue => ?_
  -- a version could have a data type in the flat vocabulary, and the rendition gives none
  dsimp only
  split
  · exact .skip hdata (.given ⟨rfl, rfl, rfl⟩)
  · exact .given ⟨rfl, rfl, rfl⟩

/-- Parameters with keys of their own are left out of the flat rendition. -/
theorem generator_agree :
    Agree Eq (classicGenerator ((SharedKind.id).classicSet values entity name)).outcome
      (modernGenerator ((SharedKind.id).modernSet values entity name)).outcome := by
  have generated : ∀ fact ∈ SharedFact.identifying,
      fact.place SharedKind.id = .generator →
      SameEntry ((SharedKind.id).classicSet values entity name) fact.flatKey
        (((SharedKind.id).modernSet values entity name).nested "generatedvalue" "strategy")
        fact.nestedKey :=
    fun fact hfact => same_nested generator_entries fact (mem_facts_of_identifying hfact)
  have hown : classicOwnParams ((SharedKind.id).classicSet values entity name) = .ok [] := by
    have absent : ∀ key ∈ ["property", "generated"],
        ((SharedKind.id).classicSet values entity name).text? key = .ok none := by
      intro key hkey
      refine text?_of_absent (absent_classic ((foreign_keys .id).1 key ?_))
      exact List.mem_append_right ["persistent", "id", "datatype", "class", "foreignkey"] hkey
    rw [classicOwnParams, absent "property" (by decide), absent "generated" (by decide)]
    rfl
  unfold classicGenerator modernGenerator
  refine .reportEq (text?_agree (generated .strategy (by decide) rfl)) fun strategy => ?_
  refine .reportEq (text?_agree (generated .sequence (by decide) rfl)) fun sequence => ?_
  refine .reportEq (text?_agree (generated .selectKey (by decide) rfl)) fun selectKey => ?_
  refine .skipReport hown ?_
  exact .reportEq (parameters_agree (generated .params (by decide) rfl)) fun params => .refl _

/-- The second step: identifiers get the same generator, and `SameFacts` is kept. -/
theorem withGenerator_agree {lazy : Bool} {c m : PropertyFacts} (h : SameFacts kind lazy c m) :
    Agree (SameFacts kind lazy)
      (classicWithGenerator c (kind.classicSet values entity name)).outcome
      (modernWithGenerator m (kind.modernSet values entity name)).outcome := by
  obtain ⟨hkind, hlazy, rfl⟩ := h
  unfold classicWithGenerator modernWithGenerator
  dsimp only
  -- only identifiers have a generator, in both vocabularies
  by_cases hid : kind = .id
  · subst hid
    have hm : (m.kind == .id) = true := by rw [hkind]; rfl
    rw [if_pos hm, if_pos hm]
    exact .reportEq generator_agree fun generator => .given ⟨hkind, hlazy, rfl⟩
  · have hm : ¬ (m.kind == .id) = true := by
      rw [hkind]
      cases kind with
      | id => exact absurd rfl hid
      | column => decide
      | version => decide
      | association k => exact Bool.false_ne_true
    rw [if_neg hm, if_neg hm]
    exact .given ⟨hkind, hlazy, rfl⟩

/-! ## The relationship -/

section Relation

variable {k : AssociationKind}

/-- A fact on a relationship stands in the set of the relationship. -/
theorem same_relation (fact : SharedFact) (hfact : fact ∈ (SharedKind.association k).facts)
    (hplace : fact.place (SharedKind.association k) = .relation) :
    SameEntry ((SharedKind.association k).classicSet values entity name) fact.flatKey
      (((SharedKind.association k).modernSet values entity name).nested k.relationKey
        "targetentity") fact.nestedKey :=
  same_nested (relation_entries k) fact hfact hplace

/-- The target is read alike: the further keys by which either vocabulary knows it are absent. -/
theorem target_agree :
    Agree Eq (classicTarget ((SharedKind.association k).classicSet values entity name))
      (modernTarget
        (((SharedKind.association k).modernSet values entity name).nested k.relationKey
          "targetentity")
        (((SharedKind.association k).modernSet values entity name).nested "joincolumn")) := by
  have joined : ∀ fact ∈ SharedFact.relational,
      fact.place (SharedKind.association k) = .joinColumn →
      SameEntry ((SharedKind.association k).classicSet values entity name) fact.flatKey
        (((SharedKind.association k).modernSet values entity name).nested "joincolumn")
        fact.nestedKey :=
    fun fact hfact => same_nested joinColumn_entries fact (mem_facts_of_relational hfact)
  have hclass : ∀ key ∈ ["class"],
      ((SharedKind.association k).classicSet values entity name).entries.get? key = none := by
    intro key hkey
    rw [List.mem_singleton.mp hkey]
    exact absent_classic ((foreign_keys _).1 "class" (by decide))
  have hforeign : ∀ key ∈ ["foreignkey"],
      ((SharedKind.association k).classicSet values entity name).entries.get? key = none := by
    intro key hkey
    rw [List.mem_singleton.mp hkey]
    exact absent_classic ((foreign_keys _).1 "foreignkey" (by decide))
  have htarget : ∀ key ∈ ["target", "entity"],
      (((SharedKind.association k).modernSet values entity name).nested k.relationKey
        "targetentity").entries.get? key = none := by
    intro key hkey
    refine absent_nested (relation_entries k) ((foreign_keys _).2.2.1 key ?_)
    exact List.mem_append_left ["optional"] hkey
  unfold classicTarget modernTarget
  rw [firstText?_of_absent hclass, firstText?_of_absent hforeign, firstText?_of_absent htarget]
  refine .bindEq (text?_agree (same_relation .target (mem_facts_of_relational (by decide)) rfl))
    fun target => ?_
  refine .bindEq (text?_agree (same_relation .lazy (mem_facts_of_common (by decide)) rfl))
    fun lazy => ?_
  refine .bindEq (text?_agree (joined .foreignKeyColumn (by decide) rfl)) fun column => ?_
  exact .bindEq (text?_agree (joined .foreignKeyName (by decide) rfl)) fun name => .refl _

/-- The facts on the relationship itself are read alike. -/
theorem relation_agree :
    Agree Eq (RelationFacts.read ((SharedKind.association k).classicSet values entity name))
      (RelationFacts.read (((SharedKind.association k).modernSet values entity name).nested
        k.relationKey "targetentity")) := by
  have same (fact : SharedFact) (hfact : fact ∈ SharedFact.relational) :=
    @same_relation values entity name k fact (mem_facts_of_relational hfact)
  refine relationFacts_agree ?_
  simp only [List.forall_mem_cons]
  exact ⟨same .mappedBy (by decide) rfl, same .cascade (by decide) rfl,
    same .fetch (by decide) rfl, same .constrained (by decide) rfl,
    same .inverse (by decide) rfl, same .orderBy (by decide) rfl,
    same .condition (by decide) rfl, same .batchSize (by decide) rfl,
    same .missingRowIgnored (by decide) rfl, List.forall_mem_nil _⟩

/-- The facts on keys and values are read alike. -/
theorem collection_agree :
    Agree Eq (CollectionFacts.read ((SharedKind.association k).classicSet values entity name))
      (CollectionFacts.read (((SharedKind.association k).modernSet values entity name).nested
        k.relationKey "targetentity")) := by
  have same (fact : SharedFact) (hfact : fact ∈ SharedFact.relational) :=
    @same_relation values entity name k fact (mem_facts_of_relational hfact)
  refine collectionFacts_agree ?_
  simp only [List.forall_mem_cons]
  exact ⟨same .keyColumn (by decide) rfl, same .keyType (by decide) rfl,
    same .keyFormula (by decide) rfl, same .elementColumn (by decide) rfl,
    same .elementType (by decide) rfl, same .elementFormula (by decide) rfl,
    List.forall_mem_nil _⟩

/-- The facts on the link table are read alike. -/
theorem link_agree :
    Agree Eq
      (LinkFacts.read ((SharedKind.association k).classicSet values entity name)
        "linktable" "linkschema" "linkcatalog")
      (LinkFacts.read (((SharedKind.association k).modernSet values entity name).nested "jointable")
        "name" "schema" "catalog") := by
  have joined (fact : SharedFact) (hfact : fact ∈ SharedFact.relational) :=
    @same_nested _ values entity name _ _ (@joinTable_entries (.association k) values entity name)
      fact (mem_facts_of_relational hfact)
  exact linkFacts_agree (joined .linkTable (by decide) rfl) (joined .linkSchema (by decide) rfl)
    (joined .linkCatalog (by decide) rfl) (joined .inverseJoinColumn (by decide) rfl)

end Relation

/-- A link table is given for a relationship, and no column for its foreign key. -/
def linkLacksForeignKey (kind : SharedKind) (values : SharedFact → Option Value) : Bool :=
  match kind with
  | .association _ => (values .linkTable).isSome && !(values .foreignKeyColumn).isSome
  | _ => false

/-- The check of the flat vocabulary is `linkLacksForeignKey`. -/
theorem linkCheck_eq (k : AssociationKind) :
    (((SharedKind.association k).classicSet values entity name).has "linktable" &&
      !((SharedKind.association k).classicSet values entity name).has "fkcolumn") =
      (SharedKind.association k).linkLacksForeignKey values := by
  have htable : ((SharedKind.association k).classic values).get? "linktable" = values .linkTable :=
    @get?_classic _ _ .linkTable (mem_facts_of_relational (by decide))
  have hcolumn : ((SharedKind.association k).classic values).get? "fkcolumn" =
      values .foreignKeyColumn :=
    @get?_classic _ _ .foreignKeyColumn (mem_facts_of_relational (by decide))
  rw [Annotations.has, Annotations.has, Keyed.has, Keyed.has, classicSet, htable, hcolumn]
  rfl

/-- The last step on a relationship: the same facts are read, unless `linkLacksForeignKey`. -/
theorem withRelation_agree_association {k : AssociationKind} {c m : PropertyFacts}
    (h : SameFacts (.association k) false c m)
    (hlink : (SharedKind.association k).linkLacksForeignKey values = false) :
    Agree (fun c m => c = { m with fieldTag := some k.name })
      (classicWithRelation c ((SharedKind.association k).classicSet values entity name))
      (modernWithRelation m ((SharedKind.association k).modernSet values entity name)) := by
  obtain ⟨hkind, hlazy, rfl⟩ := h
  have hoptional : (((SharedKind.association k).modernSet values entity name).nested
      k.relationKey "targetentity").flag "optional" true = .ok true :=
    flag_of_absent (absent_nested (relation_entries k)
      ((foreign_keys _).2.2.1 "optional" (by decide))) true
  unfold classicWithRelation modernWithRelation
  -- a relationship that does not say whether it is optional is required when the property is
  cases hnotNull : m.notNull
  all_goals
    cases m
    cases hkind
    cases hlazy
    cases hnotNull
    simp only [linkCheck_eq, hlink, modernRelation?_eq, hoptional, Bool.false_eq_true, if_false,
      if_true]
    refine .bindEq target_agree fun target => ?_
    refine .skipRight rfl ?_
    refine .bindEq relation_agree fun relation => ?_
    refine .bindEq collection_agree fun collection => ?_
    refine .bindEq link_agree fun link => ?_
    exact .given rfl

/-! ## Properties that are no relationship -/

/-- Anything but a relationship. -/
def IsPlain (kind : SharedKind) : Prop :=
  ∀ k, kind ≠ .association k

theorem plain_or_association (kind : SharedKind) :
    kind.IsPlain ∨ ∃ k, kind = .association k := by
  cases kind with
  | association k => exact .inr ⟨k, rfl⟩
  | id => exact .inl fun _ => SharedKind.noConfusion
  | column => exact .inl fun _ => SharedKind.noConfusion
  | version => exact .inl fun _ => SharedKind.noConfusion

theorem IsPlain.fieldKind (hplain : kind.IsPlain) (k : AssociationKind) :
    kind.fieldKind ≠ .association k := by
  cases kind with
  | association k' => exact absurd rfl (hplain k')
  | id => exact FieldKind.noConfusion
  | column => exact FieldKind.noConfusion
  | version => exact FieldKind.noConfusion

/-- For anything but a relationship `lazy` is a flag on the property. -/
theorem lazy_agree (hplain : kind.IsPlain) :
    Agree Eq ((kind.classicSet values entity name).flag "lazy")
      ((kind.modernSet values entity name).flag "lazy") := by
  refine flag_agree (same_own .lazy (mem_facts_of_common (by decide)) ?_)
  cases kind with
  | association k => exact absurd rfl (hplain k)
  | id => rfl
  | column => rfl
  | version => rfl

/-- The last step of the flat vocabulary on anything but a relationship: `lazy` is read. -/
theorem classicWithRelation_of_plain {c : PropertyFacts} (hkind : c.kind = kind.fieldKind)
    (hplain : kind.IsPlain) (a : Annotations) :
    classicWithRelation c a = (do
      let lazy ← a.flag "lazy"
      return { c with lazy }) := by
  unfold classicWithRelation
  split
  · next k hk => exact absurd (hkind.symm.trans hk) (hplain.fieldKind k)
  · rfl

/-- The last step of the structured vocabulary on anything but a relationship: nothing is left to be
read. -/
theorem modernWithRelation_of_plain {m : PropertyFacts} (hkind : m.kind = kind.fieldKind)
    (hplain : kind.IsPlain) (a : Annotations) : modernWithRelation m a = .ok m := by
  unfold modernWithRelation
  split
  · next k _ _ hk _ => exact absurd (hkind.symm.trans hk) (hplain.fieldKind k)
  · rfl

/-- The last step: whatever the kind, both readings end in the same facts but for `fieldTag`. -/
theorem withRelation_agree {lazy : Bool} {c m : PropertyFacts} (h : SameFacts kind lazy c m)
    (hlazy : (kind.modernSet values entity name).flag "lazy" = .ok lazy)
    (hlink : kind.linkLacksForeignKey values = false) :
    Agree (fun c m => c = { m with fieldTag := some kind.fieldKind.name })
      (classicWithRelation c (kind.classicSet values entity name))
      (modernWithRelation m (kind.modernSet values entity name)) := by
  -- `lazy` is a flag on a plain property and a text on a relationship
  obtain hplain | ⟨k, rfl⟩ := kind.plain_or_association
  · have hflag : (kind.classicSet values entity name).flag "lazy" = .ok lazy :=
      Agree.eq_ok (hlazy ▸ lazy_agree hplain)
    obtain ⟨hkind, rfl, hc⟩ := h
    have hkind' : c.kind = kind.fieldKind := (congrArg PropertyFacts.kind hc).trans hkind
    rw [classicWithRelation_of_plain hkind' hplain, modernWithRelation_of_plain hkind hplain, hc]
    exact .skip hflag (.given rfl)
  · have hfalse : false = lazy := by
      rw [lazy_of_association] at hlazy
      exact Except.ok.inj hlazy
    subst hfalse
    exact withRelation_agree_association h hlink

/-! ## Refusals -/

/-- A link table without a foreign key is refused, whatever else is said. -/
theorem withRelation_refused {c : PropertyFacts} (hkind : c.kind = kind.fieldKind)
    (hlink : kind.linkLacksForeignKey values = true) :
    Refused (classicWithRelation c (kind.classicSet values entity name)) := by
  cases kind with
  | association k =>
    cases c
    cases hkind
    unfold classicWithRelation
    simp only [linkCheck_eq, hlink, if_true]
    exact ⟨_, rfl⟩
  | id => cases hlink
  | column => cases hlink
  | version => cases hlink

/-- If the structured reading is refused for `lazy`, then the last step of the flat one is. -/
theorem withRelation_refused_of_lazy {c : PropertyFacts} (hkind : c.kind = kind.fieldKind)
    (hlazy : Refused ((kind.modernSet values entity name).flag "lazy")) :
    Refused (classicWithRelation c (kind.classicSet values entity name)) := by
  obtain hplain | ⟨k, rfl⟩ := kind.plain_or_association
  · rw [classicWithRelation_of_plain hkind hplain]
    exact (hlazy.of_agree (lazy_agree hplain)).first _
  · obtain ⟨e, he⟩ := hlazy
    rw [lazy_of_association] at he
    cases he

/-- If `lazy` cannot be read, then the structured reading is refused, by then or before. -/
theorem modernCommon_refused (hlazy : Refused ((kind.modernSet values entity name).flag "lazy")) :
    Refused (modernCommon name kind.fieldKind (kind.modernSet values entity name)) := by
  unfold modernCommon
  refine .later fun ormType _ => .later fun sqlType _ => .later fun declaredType _ => ?_
  refine .later fun formula _ => .later fun column _ => .later fun unique _ => ?_
  refine .later fun notNull _ => .later fun insertable _ => .later fun updatable _ => ?_
  exact .later fun immutable _ => hlazy.first _

/-! ## The whole reading -/

/-- The flat reading of a rendition goes through its three steps: the property is persisted, no bare
collection, and no identifier by a flag. -/
theorem readClassic_eq :
    PropertyFacts.readClassic name (kind.classicSet values entity name) = (do
      let common ← classicCommon name kind.fieldKind (kind.classicSet values entity name)
      let identified ← classicWithGenerator common (kind.classicSet values entity name)
      let facts ← classicWithRelation identified (kind.classicSet values entity name)
      return some facts) := by
  have hpersistent : (kind.classicSet values entity name).flag "persistent" true = .ok true :=
    flag_of_absent (absent_classic (kind.foreign_keys.1 "persistent" (by decide))) true
  have hid : (kind.classicSet values entity name).flag "id" = .ok false :=
    flag_of_absent (absent_classic (kind.foreign_keys.1 "id" (by decide)))
  unfold PropertyFacts.readClassic
  rw [hpersistent, classicKind_eq, hid]
  cases kind <;> rfl

/-- The structured reading of a rendition goes through its three steps: the property is not
transient. -/
theorem readModern_eq :
    PropertyFacts.readModern name (kind.modernSet values entity name) = (do
      let common ← modernCommon name kind.fieldKind (kind.modernSet values entity name)
      let identified ← modernWithGenerator common (kind.modernSet values entity name)
      let facts ← modernWithRelation identified (kind.modernSet values entity name)
      return some facts) := by
  have htransient : (kind.modernSet values entity name).flag "transient" = .ok false :=
    flag_of_absent (absent_modern kind.foreign_keys.2.2.2)
  unfold PropertyFacts.readModern
  rw [htransient, modernKind_eq]
  rfl

/-- If the last step is refused for all facts of this kind, then so is the flat reading. -/
theorem readClassic_refused
    (h : ∀ c : PropertyFacts, c.kind = kind.fieldKind →
      Refused (classicWithRelation c (kind.classicSet values entity name))) :
    Refused (PropertyFacts.readClassic name (kind.classicSet values entity name)).outcome := by
  rw [readClassic_eq]
  refine .laterReport fun common hcommon => .laterReport fun identified hidentified => ?_
  refine Refused.firstReport (h identified ?_) _
  exact (identifiedFrom_of_classicWithGenerator hidentified).kind_eq.trans
    (classicCommon_of_read hcommon).kind

/-- The readings give facts that differ in `fieldTag` only, or are both refused. -/
theorem readings_agree (hlink : kind.linkLacksForeignKey values = false) :
    Agree
      (fun x y => ∃ facts : PropertyFacts,
        x = some { facts with fieldTag := some kind.fieldKind.name } ∧ y = some facts)
      (PropertyFacts.readClassic name (kind.classicSet values entity name)).outcome
      (PropertyFacts.readModern name (kind.modernSet values entity name)).outcome := by
  cases hlazy : (kind.modernSet values entity name).flag "lazy" with
  | ok lazy =>
    rw [readClassic_eq, readModern_eq]
    refine .report (common_agree hlazy) fun _ _ hcommon => ?_
    refine .report (withGenerator_agree hcommon) fun _ _ hidentified => ?_
    refine .report (withRelation_agree hidentified hlazy hlink) fun _ m hfacts => ?_
    exact .given ⟨m, congrArg some hfacts, rfl⟩
  | error e =>
    -- the structured reading stops here, the flat one goes on as far as the relationship
    have hrefused : Refused ((kind.modernSet values entity name).flag "lazy") := ⟨e, hlazy⟩
    refine Refused.agree (readClassic_refused fun c hkind => ?_) ?_
    · exact withRelation_refused_of_lazy hkind hrefused
    · rw [readModern_eq]
      exact (modernCommon_refused hrefused).firstReport _

/-! ## The mapped properties -/

/-- Two mapped properties that are equal but for the word that declared their kind. -/
def SameMapping (x y : Option MappedProperty) : Prop :=
  ∃ p q : MappedProperty, x = some p ∧ y = some q ∧ p.untagged = q.untagged

/-- The mappings differ in the word that declared the kind only, or are both refused. -/
theorem mappings_agree (hlink : kind.linkLacksForeignKey values = false) :
    Agree SameMapping
      (MappedProperty.ofDecl ⟨name, kind.classic values⟩ .classic entity).outcome
      (MappedProperty.ofDecl ⟨name, kind.modern values⟩ .modern entity).outcome := by
  refine .report (readings_agree hlink) ?_
  rintro _ _ ⟨facts, rfl, rfl⟩
  refine .report (MappedProperty.ofFacts_agree facts _ _ _) fun p q hsame => ?_
  exact .given ⟨p, q, rfl, rfl, hsame⟩

/-- Whether a foreign key is lacking does not depend on the values. -/
theorem linkLacksForeignKey_map (f : Value → Value) :
    kind.linkLacksForeignKey (fun fact => (values fact).map f) =
      kind.linkLacksForeignKey values := by
  cases kind <;> simp [linkLacksForeignKey]

/-- Whatever values the facts have, the two renditions of a property are both refused, or give the
same mapped property but for the word that declared its kind. A relationship with a link table and
no column for its foreign key is the exception: its flat rendition is always refused. -/
theorem renditions_agree (kind : SharedKind) (values : SharedFact → Option Value)
    (name entity : String) :
    (kind.linkLacksForeignKey values = false →
      Agree SameMapping
        (MappedProperty.ofDecl (kind.classicDecl values name) .classic entity).outcome
        (MappedProperty.ofDecl (kind.modernDecl values name) .modern entity).outcome) ∧
    (kind.linkLacksForeignKey values = true →
      Refused (MappedProperty.ofDecl (kind.classicDecl values name) .classic entity).outcome) := by
  -- loading folds the keys within the values, so it is enough to look at renditions of folded
  -- values
  rw [classicDecl, modernDecl, foldEntries_classic, foldEntries_modern]
  rw [← linkLacksForeignKey_map Value.foldKeys]
  refine ⟨mappings_agree, fun hlink => ?_⟩
  refine Refused.firstReport (readClassic_refused fun c hkind => ?_) _
  exact withRelation_refused hkind hlink

/-- Tags of a car, with a link table and nothing else. -/
def tags : SharedFact → Option Value
  | .target => some (.str "Tag")
  | .linkTable => some (.str "car_tag")
  | _ => none

/-- The tags with a column for the foreign key as well. -/
def linkedTags : SharedFact → Option Value
  | .foreignKeyColumn => some (.str "car_id")
  | fact => tags fact

theorem renditions_agree_tags :
    (SharedKind.association .manyToMany).linkLacksForeignKey linkedTags = false ∧
    Agree SameMapping
      (MappedProperty.ofDecl ((SharedKind.association .manyToMany).classicDecl linkedTags "tags")
        .classic "Car").outcome
      (MappedProperty.ofDecl ((SharedKind.association .manyToMany).modernDecl linkedTags "tags")
        .modern "Car").outcome ∧
    (MappedProperty.ofDecl ((SharedKind.association .manyToMany).modernDecl linkedTags "tags")
      .modern "Car").outcome.toOption.isSome = true ∧
    (SharedKind.association .manyToMany).linkLacksForeignKey tags = true ∧
    Refused
      (MappedProperty.ofDecl ((SharedKind.association .manyToMany).classicDecl tags "tags")
        .classic "Car").outcome :=
  ⟨rfl, (renditions_agree (.association .manyToMany) linkedTags "tags" "Car").1 rfl,
    by decide +kernel, rfl, (renditions_agree (.association .manyToMany) tags "tags" "Car").2 rfl⟩

/-- Without that column the structured rendition is mapped and the flat one is not. -/
theorem renditions_differ :
    ¬ Agree SameMapping
      (MappedProperty.ofDecl ((SharedKind.association .manyToMany).classicDecl tags "tags")
        .classic "Car").outcome
      (MappedProperty.ofDecl ((SharedKind.association .manyToMany).modernDecl tags "tags")
        .modern "Car").outcome := by
  intro h
  have hclassic : (MappedProperty.ofDecl
      ((SharedKind.association .manyToMany).classicDecl tags "tags")
      .classic "Car").outcome.toOption.isSome = false := by decide +kernel
  have hmodern : (MappedProperty.ofDecl
      ((SharedKind.association .manyToMany).modernDecl tags "tags")
      .modern "Car").outcome.toOption.isSome = true := by decide +kernel
  rw [h.isSome_eq, hmodern] at hclassic
  cases hclassic

end SharedKind

end OrmMapping
