import OrmMapping.Property.Mapping

/-!
# What can be wrong with a property

Whatever the annotations of a property say, they are read, or there is a fault in them; no other
kind of error comes from there.

* `Blames`: all that can go wrong is a fault in the annotations;
* `Blames.bind`, `Blames.report`: steps in a row;
* `text?_blames`, `flag_blames`, `integer?_blames`, `parameters_blames`: single values;
* `readClassic_blames`, `readModern_blames`: all facts of a property, in either vocabulary;
* `ofDecl_blames`: its mapping.
-/

namespace OrmMapping

/-- All that can go wrong is a fault in the annotations. -/
def Blames {α : Type} (x : Except MappingError α) : Prop :=
  ∀ e, x = .error e → ∃ entity owner fault, e = .malformed entity owner fault

section Rules

variable {α β : Type}

@[simp] theorem blames_ok (a : α) : Blames (.ok a) := by
  intro e he
  cases he

/-- A result is no error. -/
@[simp] theorem blames_pure (a : α) : Blames (pure a : Except MappingError α) :=
  blames_ok a

/-- An error that an annotation set raises is a fault in the annotations. -/
@[simp] theorem blames_malformed (a : Annotations) (fault : Fault) :
    Blames (.error (a.malformed fault) : Except MappingError α) := by
  intro e he
  cases he
  exact ⟨a.entity, a.owner, fault, rfl⟩

@[simp] theorem blames_throw (a : Annotations) (fault : Fault) :
    Blames (throw (a.malformed fault) : Except MappingError α) :=
  blames_malformed a fault

/-- If `x` blames the annotations, and so does `f a` for every `a`, then so do the two steps in a
row. -/
theorem Blames.bind {x : Except MappingError α} {f : α → Except MappingError β} (hx : Blames x)
    (hf : ∀ a, Blames (f a)) : Blames (x >>= f) := by
  -- an error of `x` is the error of the row
  cases x with
  | error e =>
    intro e' he
    cases he
    exact hx e rfl
  | ok a => exact hf a

/-- `Blames.bind` for steps that may give warnings. -/
theorem Blames.report {x : Report α} {f : α → Report β} (hx : Blames x.outcome)
    (hf : ∀ a, Blames (f a).outcome) : Blames (x >>= f).outcome := by
  rw [Report.bind_def, Report.outcome_andThen]
  exact hx.bind hf

@[simp] theorem blames_map {x : Except MappingError α} {f : α → β} :
    Blames (x.map f) ↔ Blames x := by
  cases x with
  | error e => simp [Blames, Except.map]
  | ok a => simp [Except.map]

@[simp] theorem blames_fail (a : Annotations) (fault : Fault) :
    Blames (Report.fail (a.malformed fault) : Report α).outcome :=
  blames_malformed a fault

/-- A warning is no error. -/
@[simp] theorem blames_warn (notice : Notice) : Blames (Report.warn notice).outcome :=
  blames_ok ()

end Rules

variable {a column relation joinColumn : Annotations} {name key : String} {keys : List String}
  {facts : PropertyFacts} {kind : FieldKind}

/-! ## Single values -/

/-- An error of `text?` is a fault in the annotations. -/
@[simp] theorem text?_blames : Blames (a.text? key) := by
  simp only [Annotations.text?]
  split
  · simp
  · split <;> simp

/-- An error of `flag` is a fault in the annotations, whatever the standard is. -/
@[simp] theorem flag_blames {standard : Bool} : Blames (a.flag key standard) := by
  unfold Annotations.flag
  split
  · simp
  · simp
  · split
    · simp
    · split <;> simp

/-- An error of `optionalFlag` is one of `flag`. -/
@[simp] theorem optionalFlag_blames : Blames (a.optionalFlag key) := by
  unfold Annotations.optionalFlag
  split <;> simp

/-- An error of `integer?` is a fault in the annotations. -/
@[simp] theorem integer?_blames : Blames (a.integer? key) := by
  simp only [Annotations.integer?]
  split
  · simp
  · split <;> simp

/-- What `parameters` cannot read gives a warning and no error. -/
@[simp] theorem parameters_blames : Blames (a.parameters key).outcome := by
  unfold Annotations.parameters
  split
  · simp
  · split
    · simp
    · dsimp only
      split
      · simp
      · exact .report (blames_warn _) fun _ => blames_pure _

/-- An error under one of several keys is one of `text?`. -/
@[simp] theorem firstText?_blames : Blames (a.firstText? keys) := by
  induction keys with
  | nil => simp [Annotations.firstText?]
  | cons key rest ih =>
    refine .bind text?_blames fun text => ?_
    split
    · simp
    · exact ih

@[simp] theorem sqlType?_blames : Blames a.sqlType? := by
  unfold Annotations.sqlType?
  split <;> simp

/-! ## Facts of properties

A reader is a row of steps that each read one value or one group of values. -/

/-- An error in the facts on a column is one of a single value. -/
@[simp] theorem columnFacts_blames {nameKey defaultKey : String} :
    Blames (ColumnFacts.read a nameKey defaultKey) := by
  unfold ColumnFacts.read
  -- one step for each value
  repeat refine .bind (by simp) fun _ => ?_
  exact blames_pure _

/-- An error in the facts on a relationship is one of a single value. -/
@[simp] theorem relationFacts_blames : Blames (RelationFacts.read a) := by
  unfold RelationFacts.read
  repeat refine .bind (by simp) fun _ => ?_
  exact blames_pure _

/-- An error in the facts on keys and values is one of a single value. -/
@[simp] theorem collectionFacts_blames : Blames (CollectionFacts.read a) := by
  unfold CollectionFacts.read
  repeat refine .bind (by simp) fun _ => ?_
  exact blames_pure _

/-- An error in the facts on a link table is one of a single value. -/
@[simp] theorem linkFacts_blames {tableKey schemaKey catalogKey : String} :
    Blames (LinkFacts.read a tableKey schemaKey catalogKey) := by
  unfold LinkFacts.read
  repeat refine .bind (by simp) fun _ => ?_
  exact blames_pure _

/-! ### The classic vocabulary -/

/-- A word that names no kind is a fault in the annotations. -/
@[simp] theorem classicKind_blames : Blames (classicKind a) := by
  refine .bind text?_blames fun declared => ?_
  dsimp only
  split <;> simp

@[simp] theorem classicOwnParams_blames : Blames (classicOwnParams a) := by
  unfold classicOwnParams
  repeat refine .bind (by simp) fun _ => ?_
  exact blames_pure _

/-- An error in a generator of the flat vocabulary is one of a single value. -/
@[simp] theorem classicGenerator_blames : Blames (classicGenerator a).outcome := by
  unfold classicGenerator
  repeat refine .report (by simp) fun _ => ?_
  exact blames_pure _

@[simp] theorem classicTarget_blames : Blames (classicTarget a) := by
  unfold classicTarget
  repeat refine .bind (by simp) fun _ => ?_
  exact blames_pure _

/-- An error in what every property has, in the flat vocabulary, is one of a single value. -/
@[simp] theorem classicCommon_blames : Blames (classicCommon name kind a) := by
  unfold classicCommon
  repeat refine .bind (by simp) fun _ => ?_
  -- the data type is read for a version only
  dsimp only
  split <;> exact .bind (by simp) fun _ => blames_pure _

@[simp] theorem classicWithGenerator_blames : Blames (classicWithGenerator facts a).outcome := by
  unfold classicWithGenerator
  split
  · exact .report classicGenerator_blames fun _ => blames_pure _
  · simp

/-- An error in a relationship of the flat vocabulary is a fault in the annotations, also that of a
link table without a foreign key. -/
@[simp] theorem classicWithRelation_blames : Blames (classicWithRelation facts a) := by
  unfold classicWithRelation
  split
  · dsimp only
    split
    · -- the check of the link table fails
      exact .bind (blames_throw a _) fun _ => by
        repeat refine .bind (by simp) fun _ => ?_
        exact blames_pure _
    · repeat refine .bind (by simp) fun _ => ?_
      exact blames_pure _
  · exact .bind flag_blames fun _ => blames_pure _

/-- An error of `PropertyFacts.readClassic` is a fault in the annotations. -/
@[simp] theorem readClassic_blames : Blames (PropertyFacts.readClassic name a).outcome := by
  -- the two ways out come first: not persisted, and a bare collection
  refine .report (by simp) fun persistent => ?_
  split
  · simp
  · refine .report (by simp) fun declared => ?_
    split
    · exact .report (blames_warn _) fun _ => blames_pure _
    · repeat refine .report (by simp) fun _ => ?_
      exact blames_pure _

/-! ### The modern vocabulary -/

/-- An error in the kind, in the structured vocabulary, is one of its marks, which are flags. -/
@[simp] theorem modernKind_blames : Blames (modernKind a) := by
  refine .bind flag_blames fun isId => ?_
  split
  · simp
  · refine .bind flag_blames fun isVersion => ?_
    split
    · simp
    · split <;> simp

@[simp] theorem modernSqlType?_blames : Blames (modernSqlType? a column) := by
  refine .bind sqlType?_blames fun declared => ?_
  split <;> simp

@[simp] theorem modernUnique_blames : Blames (modernUnique a column) := by
  refine .bind flag_blames fun set => ?_
  split <;> simp

/-- Both places that can require a property are flags, and blame the annotations. -/
@[simp] theorem modernNotNull_blames : Blames (modernNotNull a column) := by
  refine .bind flag_blames fun set => ?_
  split
  · simp
  · exact .bind flag_blames fun _ => blames_pure _

/-- An error in a generator of the structured vocabulary is one of a single value. -/
@[simp] theorem modernGenerator_blames : Blames (modernGenerator a).outcome := by
  unfold modernGenerator
  dsimp only
  repeat refine .report (by simp) fun _ => ?_
  exact blames_pure _

@[simp] theorem modernTarget_blames : Blames (modernTarget relation joinColumn) := by
  unfold modernTarget
  repeat refine .bind (by simp) fun _ => ?_
  exact blames_pure _

/-- An error in what every property has, in the structured vocabulary, is one of a single value. -/
@[simp] theorem modernCommon_blames : Blames (modernCommon name kind a) := by
  unfold modernCommon
  dsimp only
  repeat refine .bind (by simp) fun _ => ?_
  exact blames_pure _

@[simp] theorem modernWithGenerator_blames : Blames (modernWithGenerator facts a).outcome := by
  unfold modernWithGenerator
  split
  · exact .report modernGenerator_blames fun _ => blames_pure _
  · simp

/-- An error in a relationship of the structured vocabulary is a fault in the annotations. -/
@[simp] theorem modernWithRelation_blames : Blames (modernWithRelation facts a) := by
  unfold modernWithRelation
  split
  · refine .bind modernTarget_blames fun target => ?_
    dsimp only
    split
    · repeat refine .bind (by simp) fun _ => ?_
      exact blames_pure _
    · repeat refine .bind (by simp) fun _ => ?_
      exact blames_pure _
  · simp

/-- An error of `PropertyFacts.readModern` is a fault in the annotations. -/
@[simp] theorem readModern_blames : Blames (PropertyFacts.readModern name a).outcome := by
  refine .report (by simp) fun transient => ?_
  split
  · simp
  · repeat refine .report (by simp) fun _ => ?_
    exact blames_pure _

/-! ## The rules -/

/-- A strategy `select` without its key is a fault in the annotations. -/
@[simp] theorem generator_blames {generator : GeneratorFacts} :
    Blames (Generator.ofFacts generator a) := by
  simp only [Generator.ofFacts]
  split <;> simp

/-- A type that does not suit a version gives a warning, no error. -/
@[simp] theorem mappedType_blames {generator : Option Generator} :
    Blames (MappedType.ofFacts facts generator a).outcome := by
  simp only [MappedType.ofFacts]
  split
  · exact .report (blames_warn _) fun _ => blames_pure _
  · exact blames_pure _

/-- A type that is not declared gives a warning, no error. -/
@[simp] theorem collectionType_blames {declared : Option String} :
    Blames (collectionType facts a key declared).outcome := by
  unfold collectionType
  split
  · simp
  · exact .report (blames_warn _) fun _ => blames_pure _

/-- A map without a key column is a fault in the annotations. -/
@[simp] theorem mapKeyColumn_blames : Blames (mapKeyColumn facts a).outcome := by
  simp only [mapKeyColumn]
  split
  · simp
  · split
    · exact .report (blames_fail a _) fun _ => .report (by simp) fun _ => blames_pure _
    · exact .report (by simp) fun _ => blames_pure _

/-- An error in the values of a collection would be one of their type. -/
@[simp] theorem elementColumn_blames : Blames (elementColumn facts a).outcome := by
  unfold elementColumn
  split
  · simp
  · exact .report collectionType_blames fun _ => blames_pure _

/-- A relationship without a target is a fault in the annotations, and so is whatever is wrong with
its parts. -/
@[simp] theorem association_blames {declared : AssociationKind} :
    Blames (Association.ofFacts facts declared a).outcome := by
  unfold Association.ofFacts
  dsimp only
  split
  · simp
  · split
    · refine .report mapKeyColumn_blames fun mapKey => ?_
      exact .report elementColumn_blames fun _ => blames_pure _
    · refine .report (by simp) fun mapKey => ?_
      exact .report (by simp) fun _ => blames_pure _

@[simp] theorem generator?_blames : Blames (facts.generator? a) := by
  unfold PropertyFacts.generator?
  split <;> simp

@[simp] theorem association?_blames : Blames (facts.association? a).outcome := by
  unfold PropertyFacts.association?
  split
  · exact .report association_blames fun _ => blames_pure _
  · simp

/-- An error of the rules as a whole is one of the single rules. -/
theorem ofFacts_blames : Blames (MappedProperty.ofFacts facts a).outcome := by
  unfold MappedProperty.ofFacts
  repeat refine .report (by simp) fun _ => ?_
  exact blames_pure _

/-- A declared property is mapped or passed over, or there is a fault in its annotations. -/
theorem ofDecl_blames {decl : PropertyDecl} {dialect : Dialect} {entity : String} :
    Blames (MappedProperty.ofDecl decl dialect entity).outcome := by
  refine .report ?_ fun facts => ?_
  · cases dialect with
    | classic => exact readClassic_blames
    | modern => exact readModern_blames
  · split
    · simp
    · exact .report ofFacts_blames fun _ => blames_pure _

end OrmMapping
