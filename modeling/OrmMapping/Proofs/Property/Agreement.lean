import OrmMapping.Property.Mapping

/-!
# Readings that agree

Two annotation sets can hold the same value under different keys. What is read there is the same, or
is refused in both, whatever names the errors mention. The rules that make a mapped property of the
facts do not look at the annotations any more, but for their errors and warnings.

* `Agree`: two outcomes with related results, or both with an error;
* `text?_agree`, `flag_agree`, `integer?_agree`, `parameters_agree`: single values;
* `ofFacts_agree`: the rules.
-/

namespace OrmMapping

/-- Two outcomes with related results, or both with an error. -/
inductive Agree {α β : Type} (R : α → β → Prop) :
    Except MappingError α → Except MappingError β → Prop
  | failed (e e' : MappingError) : Agree R (.error e) (.error e')
  | given {a : α} {b : β} (related : R a b) : Agree R (.ok a) (.ok b)

namespace Agree

variable {α β γ δ : Type} {R : α → β → Prop} {S : γ → δ → Prop}

/-- Every outcome agrees with itself. -/
theorem refl (x : Except MappingError α) : Agree Eq x x := by
  cases x with
  | error e => exact .failed e e
  | ok a => exact .given rfl

/-- If `x` and `y` agree in `R`, and what comes after agrees on results that `R` relates, then the
two rows of steps agree. -/
theorem bind {x : Except MappingError α} {y : Except MappingError β}
    {f : α → Except MappingError γ} {g : β → Except MappingError δ} (h : Agree R x y)
    (hnext : ∀ a b, R a b → Agree S (f a) (g b)) : Agree S (x >>= f) (y >>= g) := by
  cases h with
  | failed e e' => exact .failed e e'
  | given related => exact hnext _ _ related

/-- `Agree.bind` for first steps that agree in `Eq`: what comes after need agree on the same result
`a` only. -/
theorem bindEq {x y : Except MappingError α} {f : α → Except MappingError γ}
    {g : α → Except MappingError δ} (h : Agree Eq x y) (hnext : ∀ a, Agree S (f a) (g a)) :
    Agree S (x >>= f) (y >>= g) := by
  refine h.bind ?_
  rintro a _ rfl
  exact hnext a

/-- `Agree.bind` for steps that may give warnings; only the outcomes are compared. -/
theorem report {x : Report α} {y : Report β} {f : α → Report γ} {g : β → Report δ}
    (h : Agree R x.outcome y.outcome)
    (hnext : ∀ a b, R a b → Agree S (f a).outcome (g b).outcome) :
    Agree S (x >>= f).outcome (y >>= g).outcome := by
  rw [Report.bind_def, Report.bind_def, Report.outcome_andThen, Report.outcome_andThen]
  exact h.bind hnext

/-- `Agree.bindEq` for steps that may give warnings. -/
theorem reportEq {x y : Report α} {f : α → Report γ} {g : α → Report δ}
    (h : Agree Eq x.outcome y.outcome) (hnext : ∀ a, Agree S (f a).outcome (g a).outcome) :
    Agree S (x >>= f).outcome (y >>= g).outcome := by
  refine h.report ?_
  rintro a _ rfl
  exact hnext a

/-- A first step on the left with the known result `a` need not be matched on the right. -/
theorem skip {x : Except MappingError α} {a : α} {f : α → Except MappingError γ}
    {y : Except MappingError δ} (h : x = .ok a) (hnext : Agree S (f a) y) :
    Agree S (x >>= f) y := by
  rw [h]
  exact hnext

/-- `Agree.skip` for a first step that may give warnings. -/
theorem skipReport {x : Report α} {a : α} {f : α → Report γ} {y : Except MappingError δ}
    (h : x.outcome = .ok a) (hnext : Agree S (f a).outcome y) : Agree S (x >>= f).outcome y := by
  rw [Report.bind_def, Report.outcome_andThen]
  exact skip h hnext

/-- A first step on the right with the known result `b` need not be matched on the left. -/
theorem skipRight {x : Except MappingError γ} {y : Except MappingError β} {b : β}
    {g : β → Except MappingError δ} (h : y = .ok b) (hnext : Agree S x (g b)) :
    Agree S x (y >>= g) := by
  rw [h]
  exact hnext

theorem skipReportRight {x : Except MappingError γ} {y : Report β} {b : β} {g : β → Report δ}
    (h : y.outcome = .ok b) (hnext : Agree S x (g b).outcome) : Agree S x (y >>= g).outcome := by
  rw [Report.bind_def, Report.outcome_andThen]
  exact skipRight h hnext

/-- If `x` and `y` agree, then the result `a` on the left may be taken to be the one of `x`. -/
theorem known {x : Except MappingError α} {y : Except MappingError β} (h : Agree R x y) :
    Agree (fun a b => R a b ∧ x = .ok a) x y := by
  cases h with
  | failed e e' => exact .failed e e'
  | given related => exact .given ⟨related, rfl⟩

/-- Outcomes that agree in `Eq` still do after `f`. -/
theorem map {x y : Except MappingError α} (h : Agree Eq x y) (f : α → γ) :
    Agree Eq (x.map f) (y.map f) := by
  cases h with
  | failed e e' => exact .failed e e'
  | given related =>
    cases related
    exact .given rfl

end Agree

/-- An outcome that is an error. -/
def Refused {α : Type} (x : Except MappingError α) : Prop :=
  ∃ e, x = .error e

/-- Of two outcomes that agree, both have a result or neither has. -/
theorem Agree.isSome_eq {α β : Type} {R : α → β → Prop} {x : Except MappingError α}
    {y : Except MappingError β} (h : Agree R x y) : x.toOption.isSome = y.toOption.isSome := by
  cases h with
  | failed e e' => rfl
  | given related => rfl

/-- Outcomes that agree in `R` agree in everything that follows from `R`. -/
theorem Agree.mono {α β : Type} {R S : α → β → Prop} {x : Except MappingError α}
    {y : Except MappingError β} (h : Agree R x y) (hRS : ∀ a b, R a b → S a b) : Agree S x y := by
  cases h with
  | failed e e' => exact .failed e e'
  | given related => exact .given (hRS _ _ related)

/-- What agrees in `Eq` with a result is that result. -/
theorem Agree.eq_ok {α : Type} {x : Except MappingError α} {a : α} (h : Agree Eq x (.ok a)) :
    x = .ok a := by
  cases h with
  | given related => rw [related]

namespace Refused

variable {α β : Type}

/-- To be refused is to have no result. -/
theorem iff_not_ok {x : Except MappingError α} : Refused x ↔ ¬ ∃ a, x = .ok a := by
  cases x <;> simp [Refused]

/-- If `y` is refused and `x` agrees with it, then `x` is refused. -/
theorem of_agree {R : α → β → Prop} {x : Except MappingError α} {y : Except MappingError β}
    (hy : Refused y) (h : Agree R x y) : Refused x := by
  obtain ⟨e, rfl⟩ := hy
  cases h with
  | failed e e' => exact ⟨e, rfl⟩

/-- Two outcomes that are refused agree in every `R`, as errors are not compared. -/
theorem agree {R : α → β → Prop} {x : Except MappingError α} {y : Except MappingError β}
    (hx : Refused x) (hy : Refused y) : Agree R x y := by
  obtain ⟨e, rfl⟩ := hx
  obtain ⟨e', rfl⟩ := hy
  exact .failed e e'

/-- Steps are refused when the first one is. -/
theorem first {x : Except MappingError α} (h : Refused x) (f : α → Except MappingError β) :
    Refused (x >>= f) := by
  obtain ⟨e, rfl⟩ := h
  exact ⟨e, rfl⟩

/-- Steps are refused when what follows is refused for every result `a` of `x`. -/
theorem later {x : Except MappingError α} {f : α → Except MappingError β}
    (h : ∀ a, x = .ok a → Refused (f a)) : Refused (x >>= f) := by
  cases x with
  | error e => exact ⟨e, rfl⟩
  | ok a => exact h a rfl

/-- `Refused.first` for steps that may give warnings. -/
theorem firstReport {x : Report α} (h : Refused x.outcome) (f : α → Report β) :
    Refused (x >>= f).outcome := by
  rw [Report.bind_def, Report.outcome_andThen]
  exact h.first _

/-- `Refused.later` for steps that may give warnings. -/
theorem laterReport {x : Report α} {f : α → Report β}
    (h : ∀ a, x.outcome = .ok a → Refused (f a).outcome) : Refused (x >>= f).outcome := by
  rw [Report.bind_def, Report.outcome_andThen]
  exact later h

end Refused

/-! ## Single values -/

section Values

variable {a b : Annotations} {key key' : String}

/-- What stands in `a` under `key` stands in `b` under `key'`, or nothing does in either. -/
def SameEntry (a : Annotations) (key : String) (b : Annotations) (key' : String) : Prop :=
  a.entries.get? key = b.entries.get? key'

theorem SameEntry.value (h : SameEntry a key b key') : a.value key = b.value key' := by
  rw [Annotations.value, Annotations.value, h]

theorem SameEntry.has (h : SameEntry a key b key') : a.has key = b.has key' := by
  rw [Annotations.has, Annotations.has, Keyed.has, Keyed.has, h]

/-- Under keys with the same entry, the same text is read or both readings are refused; the errors
may name different keys. -/
theorem text?_agree (h : SameEntry a key b key') : Agree Eq (a.text? key) (b.text? key') := by
  unfold Annotations.text?
  rw [h.value]
  -- both readers look at one value from here on
  generalize b.value key' = value
  dsimp only
  split
  · exact .refl _
  · cases value with
    | map entries => exact .failed _ _
    | null => exact .refl _
    | bool x => exact .refl _
    | int n => exact .refl _
    | float x => exact .refl _
    | str s => exact .refl _
    | list items => exact .refl _

/-- Under keys with the same entry, the same number is read or both readings are refused. -/
theorem integer?_agree (h : SameEntry a key b key') :
    Agree Eq (a.integer? key) (b.integer? key') := by
  unfold Annotations.integer?
  rw [h.value]
  generalize b.value key' = value
  dsimp only
  split
  · exact .refl _
  · split
    · exact .refl _
    · exact .failed _ _

/-- Under keys with the same entry, the same flag is read or both readings are refused, for one
`standard`. -/
theorem flag_agree (h : SameEntry a key b key') (standard : Bool := false) :
    Agree Eq (a.flag key standard) (b.flag key' standard) := by
  have hentry : a.entries.get? key = b.entries.get? key' := h
  unfold Annotations.flag
  rw [hentry]
  split
  · exact .refl _
  · exact .refl _
  · split
    · exact .refl _
    · split
      · exact .refl _
      · exact .failed _ _

/-- Under keys with the same entry, the same flag is read where there is one. -/
theorem optionalFlag_agree (h : SameEntry a key b key') :
    Agree Eq (a.optionalFlag key) (b.optionalFlag key') := by
  unfold Annotations.optionalFlag
  rw [h.has]
  split
  · exact (flag_agree h).map some
  · exact .refl _

/-- Parameters are always read: a value that holds none gives a warning and no error. -/
theorem parameters_agree (h : SameEntry a key b key') :
    Agree Eq (a.parameters key).outcome (b.parameters key').outcome := by
  unfold Annotations.parameters
  rw [h.value]
  generalize b.value key' = value
  split
  · exact .refl _
  · dsimp only
    split
    · exact .refl _
    · split
      · exact .refl _
      · exact .refl _

/-- If a text `s` without space around it stands under `key`, then `text?` gives it as it is. -/
theorem text?_of_str {s : String} (h : a.entries.get? key = some (.str s))
    (hblank : Text.isBlank s = false) (htrim : Text.trim s = s) : a.text? key = .ok (some s) := by
  have hvalue : a.value key = .str s := by rw [Annotations.value, h, Option.getD_some]
  have hsays : (Value.str s).isBlank = false := hblank
  have htext : (Value.str s).text = s := rfl
  unfold Annotations.text?
  simp only [hvalue, hsays, htext, htrim, Bool.false_eq_true, if_false]

/-! ## Keys that are absent -/

theorem has_of_absent (h : a.entries.get? key = none) : a.has key = false := by
  rw [Annotations.has, Keyed.has, h, Option.isSome_none]

/-- Where nothing stands under `key`, there is no text. -/
theorem text?_of_absent (h : a.entries.get? key = none) : a.text? key = .ok none := by
  rw [Annotations.text?, Annotations.value, h]
  rfl

/-- Where nothing stands under `key`, the flag is `standard`. -/
theorem flag_of_absent (h : a.entries.get? key = none) (standard : Bool := false) :
    a.flag key standard = .ok standard := by
  rw [Annotations.flag, h]

theorem integer?_of_absent (h : a.entries.get? key = none) : a.integer? key = .ok none := by
  rw [Annotations.integer?, Annotations.value, h]
  rfl

theorem parameters_of_absent (h : a.entries.get? key = none) :
    (a.parameters key).outcome = .ok [] := by
  rw [Annotations.parameters, Annotations.value, h]
  rfl

/-- Where nothing stands under `key`, the nested set is empty. -/
theorem nested_of_absent (h : a.entries.get? key = none) (shorthand : String) :
    (a.nested key shorthand).entries = [] := by
  rw [Annotations.nested, Annotations.value, h]
  rfl

/-- A flag that is present does not depend on what it would be otherwise. -/
theorem flag_of_present (h : a.has key = true) (standard standard' : Bool) :
    a.flag key standard = a.flag key standard' := by
  unfold Annotations.flag
  cases hget : a.entries.get? key with
  | none =>
    rw [Annotations.has, Keyed.has, hget] at h
    cases h
  | some value => cases value <;> rfl

theorem sqlType?_of_absent (h : a.entries.get? "sqltype" = none) : a.sqlType? = .ok none := by
  rw [Annotations.sqlType?, has_of_absent h]
  rfl

theorem sqlType?_agree (h : SameEntry a "sqltype" b "sqltype") :
    Agree Eq a.sqlType? b.sqlType? := by
  unfold Annotations.sqlType?
  rw [h.has]
  split
  · exact (text?_agree h).map _
  · exact .refl _

/-- If each of `keys` has the same entry in `a` and `b`, then the same text is found first. -/
theorem firstText?_agree {keys : List String} (h : ∀ key ∈ keys, SameEntry a key b key) :
    Agree Eq (a.firstText? keys) (b.firstText? keys) := by
  -- on the keys: a text ends the search on both sides, and none leads to the next key
  induction keys with
  | nil => exact .refl _
  | cons key rest ih =>
    obtain ⟨hkey, hrest⟩ := List.forall_mem_cons.mp h
    refine .bindEq (text?_agree hkey) fun text => ?_
    cases text with
    | none => exact ih hrest
    | some s => exact .refl _

/-- If the further `keys` are absent, then the first one decides. -/
theorem firstText?_of_absent {keys : List String} (h : ∀ k ∈ keys, a.entries.get? k = none) :
    a.firstText? (key :: keys) = a.text? key := by
  -- nothing is found under keys that are absent
  have hrest : ∀ ks : List String, (∀ k ∈ ks, a.entries.get? k = none) →
      a.firstText? ks = .ok none := by
    intro ks hks
    induction ks with
    | nil => rfl
    | cons k rest ih =>
      obtain ⟨hk, hmore⟩ := List.forall_mem_cons.mp hks
      rw [Annotations.firstText?, text?_of_absent hk]
      exact ih hmore
  rw [Annotations.firstText?]
  cases a.text? key with
  | error e => rfl
  | ok text =>
    cases text with
    | none => exact hrest keys h
    | some s => rfl

/-! ## Values that may stand in two places -/

section TwoPlaces

variable {column : Annotations}

/-- If the column declares no type, then the type is the one on the property. -/
theorem modernSqlType?_agree (h : SameEntry a "sqltype" b "sqltype")
    (habsent : column.entries.get? "sqltype" = none) :
    Agree Eq a.sqlType? (modernSqlType? b column) := by
  have heq : modernSqlType? b column = b.sqlType? := by
    unfold modernSqlType?
    rw [sqlType?_of_absent habsent]
    cases b.sqlType? with
    | error e => rfl
    | ok text => cases text <;> rfl
  rw [heq]
  exact sqlType?_agree h

/-- If the column does not say `unique`, then the property decides. -/
theorem modernUnique_agree (h : SameEntry a "unique" b "unique")
    (habsent : column.entries.get? "unique" = none) :
    Agree Eq (a.flag "unique") (modernUnique b column) := by
  have heq : modernUnique b column = b.flag "unique" := by
    unfold modernUnique
    rw [flag_of_absent habsent]
    rfl
  rw [heq]
  exact flag_agree h

/-- If the column does not say `nullable`, then the property decides. -/
theorem modernNotNull_agree (h : SameEntry a "notnull" b "notnull")
    (habsent : column.entries.get? "nullable" = none) :
    Agree Eq (a.flag "notnull") (modernNotNull b column) := by
  have heq : modernNotNull b column = b.flag "notnull" := by
    unfold modernNotNull
    rw [flag_of_absent habsent true]
    cases b.flag "notnull" with
    | error e => rfl
    | ok required => cases required <;> rfl
  rw [heq]
  exact flag_agree h

end TwoPlaces

end Values

/-! ## Groups of facts -/

section Groups

variable {a b : Annotations}

/-- The facts on a column agree where each of them has the same entry, whatever the keys of the name
and of the default value are. -/
theorem columnFacts_agree {nameKey defaultKey nameKey' defaultKey' : String}
    (hname : SameEntry a nameKey b nameKey') (hdefault : SameEntry a defaultKey b defaultKey')
    (h : ∀ key ∈ ["length", "precision", "scale", "table", "uniquekey"], SameEntry a key b key) :
    Agree Eq (ColumnFacts.read a nameKey defaultKey) (ColumnFacts.read b nameKey' defaultKey') := by
  -- one step for each value, in the order in which they are read
  refine .bindEq (text?_agree hname) fun name => ?_
  refine .bindEq (integer?_agree (h "length" (by decide))) fun length => ?_
  refine .bindEq (integer?_agree (h "precision" (by decide))) fun precision => ?_
  refine .bindEq (integer?_agree (h "scale" (by decide))) fun scale => ?_
  refine .bindEq (text?_agree hdefault) fun defaultValue => ?_
  refine .bindEq (text?_agree (h "table" (by decide))) fun table => ?_
  refine .bindEq (text?_agree (h "uniquekey" (by decide))) fun uniqueKey => ?_
  exact .refl _

/-- The facts on a relationship agree where the same entries stand under its keys. -/
theorem relationFacts_agree
    (h : ∀ key ∈ ["mappedby", "cascade", "fetch", "constrained", "inverse", "orderby", "where",
      "batchsize", "missingrowignored"], SameEntry a key b key) :
    Agree Eq (RelationFacts.read a) (RelationFacts.read b) := by
  refine .bindEq (text?_agree (h "mappedby" (by decide))) fun mappedBy => ?_
  refine .bindEq (text?_agree (h "cascade" (by decide))) fun cascade => ?_
  refine .bindEq (text?_agree (h "fetch" (by decide))) fun fetch => ?_
  refine .bindEq (flag_agree (h "constrained" (by decide))) fun constrained => ?_
  refine .bindEq (flag_agree (h "inverse" (by decide))) fun inverse => ?_
  refine .bindEq (text?_agree (h "orderby" (by decide))) fun orderBy => ?_
  refine .bindEq (text?_agree (h "where" (by decide))) fun condition => ?_
  refine .bindEq (integer?_agree (h "batchsize" (by decide))) fun batchSize => ?_
  refine .bindEq (flag_agree (h "missingrowignored" (by decide))) fun missingRowIgnored => ?_
  exact .refl _

/-- The facts on keys and values agree where the same entries stand under their keys. -/
theorem collectionFacts_agree
    (h : ∀ key ∈ ["structkeycolumn", "structkeytype", "structkeyformula", "elementcolumn",
      "elementtype", "elementformula"], SameEntry a key b key) :
    Agree Eq (CollectionFacts.read a) (CollectionFacts.read b) := by
  refine .bindEq (text?_agree (h "structkeycolumn" (by decide))) fun keyColumn => ?_
  refine .bindEq (text?_agree (h "structkeytype" (by decide))) fun keyType => ?_
  refine .bindEq (text?_agree (h "structkeyformula" (by decide))) fun keyFormula => ?_
  refine .bindEq (text?_agree (h "elementcolumn" (by decide))) fun elementColumn => ?_
  refine .bindEq (text?_agree (h "elementtype" (by decide))) fun elementType => ?_
  refine .bindEq (text?_agree (h "elementformula" (by decide))) fun elementFormula => ?_
  exact .refl _

/-- The facts on a link table agree where each of them has the same entry, whatever the keys of the
table are. -/
theorem linkFacts_agree {tableKey schemaKey catalogKey tableKey' schemaKey' catalogKey' : String}
    (htable : SameEntry a tableKey b tableKey') (hschema : SameEntry a schemaKey b schemaKey')
    (hcatalog : SameEntry a catalogKey b catalogKey')
    (hinverse : SameEntry a "inversejoincolumn" b "inversejoincolumn") :
    Agree Eq (LinkFacts.read a tableKey schemaKey catalogKey)
      (LinkFacts.read b tableKey' schemaKey' catalogKey') := by
  refine .bindEq (text?_agree htable) fun table => ?_
  refine .bindEq (text?_agree hschema) fun schema => ?_
  refine .bindEq (text?_agree hcatalog) fun catalog => ?_
  refine .bindEq (text?_agree hinverse) fun inverseJoinColumn => ?_
  exact .refl _

end Groups

/-! ## Rules -/

section Rules

variable (facts : PropertyFacts) (a b : Annotations)

/-- The rule for generators looks at `facts` only; the annotations give names to errors. -/
theorem generator?_agree : Agree Eq (facts.generator? a) (facts.generator? b) := by
  unfold PropertyFacts.generator? Generator.ofFacts
  dsimp only
  split
  · split
    · exact .failed _ _
    · exact .refl _
  · exact .refl _

/-- The type of keys or values is settled by what is declared; a guess gives a warning. -/
theorem collectionType_agree (key : String) (declared : Option String) :
    Agree Eq (collectionType facts a key declared).outcome
      (collectionType facts b key declared).outcome := by
  cases declared with
  | none => exact .refl _
  | some type => exact .refl _

/-- The rule for the keys of a map looks at `facts` only. -/
theorem mapKeyColumn_agree :
    Agree Eq (mapKeyColumn facts a).outcome (mapKeyColumn facts b).outcome := by
  unfold mapKeyColumn
  split
  · exact .refl _
  · split
    · exact .failed _ _
    · exact .reportEq (collectionType_agree facts a b _ _) fun type => .refl _

/-- The rule for the values of a collection looks at `facts` only. -/
theorem elementColumn_agree :
    Agree Eq (elementColumn facts a).outcome (elementColumn facts b).outcome := by
  unfold elementColumn
  split
  · exact .refl _
  · exact .reportEq (collectionType_agree facts a b _ _) fun type => .refl _

/-- The rules for a relationship look at `facts` only. -/
theorem Association.ofFacts_agree (declared : AssociationKind) :
    Agree Eq (Association.ofFacts facts declared a).outcome
      (Association.ofFacts facts declared b).outcome := by
  unfold Association.ofFacts
  -- without a target both are refused, and else the kind decides which parts there are
  cases facts.target.entity with
  | none => exact .failed _ _
  | some target =>
    dsimp only
    split
    · exact .reportEq (mapKeyColumn_agree facts a b) fun mapKey =>
        .reportEq (elementColumn_agree facts a b) fun element => .refl _
    · exact .refl _

/-- Whether there is a relationship depends on the kind, and what it is on `facts`. -/
theorem association?_agree :
    Agree Eq (facts.association? a).outcome (facts.association? b).outcome := by
  unfold PropertyFacts.association?
  cases facts.kind with
  | association declared =>
    exact .reportEq (Association.ofFacts_agree facts a b declared) fun association => .refl _
  | id => exact .refl _
  | column => exact .refl _
  | version => exact .refl _
  | timestamp => exact .refl _
  | collection => exact .refl _

/-- The type is always known; a version that does not count upwards gives a warning. -/
theorem MappedType.ofFacts_outcome (generator : Option Generator) :
    (MappedType.ofFacts facts generator a).outcome =
      .ok { name := facts.typeName generator, declared := facts.declaredType,
            sqlType := facts.sqlType, engineType := facts.ormType,
            fieldTag := facts.fieldTag } := by
  unfold MappedType.ofFacts
  dsimp only
  split <;> rfl

end Rules

/-- The property without the word that declared its kind. -/
def MappedProperty.untagged (p : MappedProperty) : MappedProperty :=
  { p with type := { p.type with fieldTag := none } }

/-- The rules do not look at the annotations, nor at `fieldTag` but to keep it. -/
theorem MappedProperty.ofFacts_agree (facts : PropertyFacts) (tag : Option String)
    (a b : Annotations) :
    Agree (fun p q => p.untagged = q.untagged)
      (MappedProperty.ofFacts { facts with fieldTag := tag } a).outcome
      (MappedProperty.ofFacts facts b).outcome := by
  unfold MappedProperty.ofFacts
  refine .reportEq (generator?_agree facts a b) fun generator => ?_
  refine .reportEq (association?_agree facts a b) fun association => ?_
  simp only [Report.bind_def, Report.outcome_andThen, MappedType.ofFacts_outcome]
  exact .given rfl

end OrmMapping
