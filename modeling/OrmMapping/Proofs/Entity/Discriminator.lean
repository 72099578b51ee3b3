import OrmMapping.Proofs.Entity.Agreement
import OrmMapping.Proofs.Property.Vocabulary

/-!
# Two notations of a discriminator

A classic class tells its discriminator by a nested set or by flat keys. Both notations lead to the
same entity, or both are refused, when a value or a column is among what is told. Flat keys that
tell neither of the two are passed over, and a class with a nested set that tells the same has a
discriminator.

* `DiscriminatorFact`, `TellsAlike`: what there is to tell, and two classes that tell the same;
* `toldDiscriminator`, `classicDiscriminator_eq`: a discriminator that is not passed over;
* `TellsAlike.told_agree`: it is the same in both notations;
* `tellsAlike_annotated`: any facts can be told in both notations;
* `agree_iff_of_tellsAlike`: when the notations lead to the same discriminator;
* `formula_passedOver`: a formula alone.
-/

namespace OrmMapping

/-- What there is to tell about a discriminator. -/
inductive DiscriminatorFact where
  | value
  | column
  | type
  | formula
  | force
  | insert
deriving DecidableEq, Repr

namespace DiscriminatorFact

/-- All facts. -/
def all : List DiscriminatorFact :=
  [.value, .column, .type, .formula, .force, .insert]

/-- The key in the nested set. -/
def nestedKey : DiscriminatorFact → String
  | .value => "value"
  | .column => "column"
  | .type => "type"
  | .formula => "formula"
  | .force => "force"
  | .insert => "insert"

/-- The key among the annotations of the class. -/
def flatKey (fact : DiscriminatorFact) : String :=
  "discriminator" ++ fact.nestedKey

end DiscriminatorFact

/-- The keys that tell about discriminators. -/
def discriminatorKeys : List String :=
  "discriminator" :: DiscriminatorFact.all.map (·.flatKey)

/-- Two classic classes that are the same but for the notation of their discriminator: flat keys in
the first, a nested set in the second. Each fact has the same value in both, or is left out of
both, and some fact is told. -/
structure TellsAlike (values : DiscriminatorFact → Option Value) (flat nested : Descriptor) :
    Prop where
  classic : flat.dialect = .classic
  same : flat.SameBut discriminatorKeys nested
  flatKeys : ∀ fact, flat.annotations.get? fact.flatKey = values fact
  flatOnly : flat.annotations.get? "discriminator" = none
  nestedKeys : ∃ inner : Keyed Value, nested.annotations.get? "discriminator" = some (.map inner) ∧
    (∀ fact, inner.get? fact.nestedKey = values fact) ∧ inner.get? "name" = none
  nestedOnly : ∀ fact, nested.annotations.get? (DiscriminatorFact.flatKey fact) = none
  told : ∃ fact, (values fact).isSome = true

variable {a inner : Annotations} {key : String} {keys : List String}
  {values : DiscriminatorFact → Option Value} {flat nested : Descriptor}
  {fallback : Option String}

/-! ## One notation -/

/-- The nested set of a class. -/
def discriminatorSet (a : Annotations) : Annotations :=
  a.nested "discriminator" "value"

/-- A flag that counts when it is other than the standard in either place. The flat one is read only
where the nested one does not settle it. -/
def flagInEither (inner a : Annotations) (fact : DiscriminatorFact) (standard : Bool) :
    Except MappingError Bool := do
  if (← inner.flag fact.nestedKey standard) == standard then a.flag fact.flatKey standard
  else return !standard

/-- A discriminator that is not passed over. -/
def toldDiscriminator (inner a : Annotations) : Except MappingError Discriminator := do
  let value ← nestedOrFlat inner ["value"] a "discriminatorvalue"
  let column ← nestedOrFlat inner ["column", "name"] a "discriminatorcolumn"
  let type ← nestedOrFlat inner ["type"] a "discriminatortype"
  let formula ← nestedOrFlat inner ["formula"] a "discriminatorformula"
  let force ← flagInEither inner a .force false
  let insert ← flagInEither inner a .insert true
  return { value, column, type, formula, force, insert }

/-- The facts on `discriminator` stand in the nested set `inner` or under flat keys of `a`. -/
structure Discriminator.ToldIn (discriminator : Discriminator) (inner a : Annotations) : Prop where
  value : nestedOrFlat inner ["value"] a "discriminatorvalue" = .ok discriminator.value
  column : nestedOrFlat inner ["column", "name"] a "discriminatorcolumn" =
    .ok discriminator.column
  type : nestedOrFlat inner ["type"] a "discriminatortype" = .ok discriminator.type
  formula : nestedOrFlat inner ["formula"] a "discriminatorformula" = .ok discriminator.formula
  force : flagInEither inner a .force false = .ok discriminator.force
  insert : flagInEither inner a .insert true = .ok discriminator.insert

/-- Inversion of `toldDiscriminator`. -/
theorem Discriminator.toldIn_of_told {discriminator : Discriminator}
    (h : toldDiscriminator inner a = .ok discriminator) : discriminator.ToldIn inner a := by
  simp only [toldDiscriminator, bind_eq_ok, pure_eq_ok] at h
  obtain ⟨_, hvalue, _, hcolumn, _, htype, _, hformula, _, hforce, _, hinsert, rfl⟩ := h
  exact ⟨hvalue, hcolumn, htype, hformula, hforce, hinsert⟩

/-- Flat keys that tell neither a column nor a value are passed over when there is no nested set. -/
def passesOver (a : Annotations) : Bool :=
  (discriminatorSet a).entries.isEmpty && !a.has "discriminatorcolumn" &&
    !a.has "discriminatorvalue"

/-- Mapping the result of two steps is mapping that of the second one. -/
theorem map_bind_eq {α β γ : Type} (x : Except MappingError α) (f : α → Except MappingError β)
    (g : β → γ) : (x >>= f).map g = x >>= fun r => (f r).map g := by
  cases x <;> rfl

/-- A classic class has no discriminator when it is passed over, and else the one that
`toldDiscriminator` reads in the nested set and in the flat keys. -/
theorem classicDiscriminator_eq :
    classicDiscriminator a =
      if passesOver a then .ok none
      else (toldDiscriminator (discriminatorSet a) a).map some := by
  have hset : a.nested "discriminator" "value" = discriminatorSet a := rfl
  unfold classicDiscriminator passesOver toldDiscriminator
  rw [hset]
  dsimp only
  split
  · rfl
  · generalize discriminatorSet a = inner
    simp only [map_bind_eq]
    refine bind_congr fun value => bind_congr fun column => ?_
    refine bind_congr fun type => bind_congr fun formula => ?_
    -- the two flags are left
    have hforce : flagInEither inner a .force false =
        (do if (← inner.flag "force") == false then a.flag "discriminatorforce" else return true) :=
      rfl
    have hinsert : flagInEither inner a .insert true =
        (do if (← inner.flag "insert" true) == true then a.flag "discriminatorinsert" true
            else return false) := rfl
    rw [hforce, hinsert]
    cases inner.flag "force" with
    | error e => rfl
    | ok force =>
      cases force with
      | true =>
        cases inner.flag "insert" true with
        | error e => rfl
        | ok insert => cases insert <;> rfl
      | false =>
        cases a.flag "discriminatorforce" with
        | error e => rfl
        | ok force =>
          cases inner.flag "insert" true with
          | error e => rfl
          | ok insert => cases insert <;> rfl

/-! ## Either place alone -/

/-- An empty set has no text under any of `keys`. -/
theorem firstText?_of_nil (h : inner.entries = []) (keys : List String) :
    inner.firstText? keys = .ok none := by
  have habsent : ∀ key, inner.entries.get? key = none := fun key => by rw [h]; rfl
  cases keys with
  | nil => rfl
  | cons key rest =>
    rw [firstText?_of_absent fun k _ => habsent k]
    exact text?_of_absent (habsent key)

/-- With an empty nested set, the text under the flat key is read. -/
theorem nestedOrFlat_of_nil (h : inner.entries = []) :
    nestedOrFlat inner keys a key = a.text? key := by
  rw [nestedOrFlat, firstText?_of_nil h]
  rfl

/-- With nothing under the flat key, the text of the nested set is read. -/
theorem nestedOrFlat_of_absent (h : a.entries.get? key = none) :
    nestedOrFlat inner keys a key = inner.firstText? keys := by
  unfold nestedOrFlat
  rw [text?_of_absent h]
  cases inner.firstText? keys with
  | error e => rfl
  | ok text => cases text <;> rfl

/-- With an empty nested set, the flat flag is read. -/
theorem flagInEither_of_nil (h : inner.entries = []) (fact : DiscriminatorFact)
    (standard : Bool) : flagInEither inner a fact standard = a.flag fact.flatKey standard := by
  have habsent : inner.entries.get? fact.nestedKey = none := by rw [h]; rfl
  unfold flagInEither
  rw [flag_of_absent habsent standard]
  simp [bind, Except.bind]

/-- With nothing under the flat key, the flag of the nested set is read. -/
theorem flagInEither_of_absent {fact : DiscriminatorFact}
    (h : a.entries.get? fact.flatKey = none) (standard : Bool) :
    flagInEither inner a fact standard = inner.flag fact.nestedKey standard := by
  unfold flagInEither
  rw [flag_of_absent h standard]
  cases inner.flag fact.nestedKey standard with
  | error e => rfl
  | ok told => cases told <;> cases standard <;> rfl

/-! ## Two notations -/

namespace TellsAlike

variable (h : TellsAlike values flat nested)

include h

/-- The class with flat keys has no nested set. -/
theorem flat_entries : (discriminatorSet flat.classAnnotations).entries = [] := by
  have hnone : flat.classAnnotations.entries.get? "discriminator" = none := h.flatOnly
  rw [discriminatorSet, Annotations.nested, Annotations.value, hnone]
  rfl

/-- The nested set has the value of each fact under its key, and nothing under `name`, which would
stand for the column. -/
theorem nested_entries :
    (∀ fact : DiscriminatorFact,
      (discriminatorSet nested.classAnnotations).entries.get? fact.nestedKey = values fact) ∧
    (discriminatorSet nested.classAnnotations).entries.get? "name" = none := by
  obtain ⟨inner, hinner, hfacts⟩ := h.nestedKeys
  have hsome : nested.classAnnotations.entries.get? "discriminator" = some (.map inner) := hinner
  rw [discriminatorSet, Annotations.nested, Annotations.value, hsome]
  exact hfacts

/-- Each fact has the same value under its flat key in `flat` as under its nested key in the set of
`nested`. -/
theorem same_fact (fact : DiscriminatorFact) :
    SameEntry flat.classAnnotations fact.flatKey (discriminatorSet nested.classAnnotations)
      fact.nestedKey :=
  (h.flatKeys fact).trans (h.nested_entries.1 fact).symm

/-- A fact that is a text is read alike of both, whatever `further` key the nested set may have it
under. -/
theorem text_agree (fact : DiscriminatorFact) {further : List String}
    (hfurther : ∀ key ∈ further, key = "name") :
    Agree Eq
      (nestedOrFlat (discriminatorSet flat.classAnnotations) (fact.nestedKey :: further)
        flat.classAnnotations fact.flatKey)
      (nestedOrFlat (discriminatorSet nested.classAnnotations) (fact.nestedKey :: further)
        nested.classAnnotations fact.flatKey) := by
  have habsent : ∀ key ∈ further,
      (discriminatorSet nested.classAnnotations).entries.get? key = none := by
    intro key hkey
    rw [hfurther key hkey]
    exact h.nested_entries.2
  rw [nestedOrFlat_of_nil h.flat_entries, nestedOrFlat_of_absent (h.nestedOnly fact),
    firstText?_of_absent habsent]
  exact text?_agree (h.same_fact fact)

/-- `toldDiscriminator` reads the same of both classes, or refuses both. -/
theorem told_agree :
    Agree Eq
      (toldDiscriminator (discriminatorSet flat.classAnnotations) flat.classAnnotations)
      (toldDiscriminator (discriminatorSet nested.classAnnotations) nested.classAnnotations) := by
  refine .bindEq (h.text_agree .value (by simp)) fun value => ?_
  refine .bindEq (h.text_agree .column (by simp)) fun column => ?_
  refine .bindEq (h.text_agree .type (by simp)) fun type => ?_
  refine .bindEq (h.text_agree .formula (by simp)) fun formula => ?_
  -- each notation has its flags in one place only
  rw [flagInEither_of_nil h.flat_entries, flagInEither_of_nil h.flat_entries,
    flagInEither_of_absent (h.nestedOnly .force), flagInEither_of_absent (h.nestedOnly .insert)]
  refine .bindEq (flag_agree (h.same_fact .force)) fun force => ?_
  refine .bindEq (flag_agree (h.same_fact .insert) true) fun insert => ?_
  exact .refl _

/-- The flat notation is passed over exactly when neither a value nor a column is told. -/
theorem passesOver_flat :
    passesOver flat.classAnnotations = (!(values .value).isSome && !(values .column).isSome) := by
  have hcolumn : flat.classAnnotations.has "discriminatorcolumn" = (values .column).isSome :=
    congrArg Option.isSome (h.flatKeys .column)
  have hvalue : flat.classAnnotations.has "discriminatorvalue" = (values .value).isSome :=
    congrArg Option.isSome (h.flatKeys .value)
  rw [passesOver, h.flat_entries, hcolumn, hvalue, List.isEmpty_nil, Bool.true_and, Bool.and_comm]

/-- The nested notation is never passed over, since some fact is told. -/
theorem passesOver_nested : passesOver nested.classAnnotations = false := by
  obtain ⟨fact, htold⟩ := h.told
  have hsome := h.nested_entries.1 fact
  cases hentries : (discriminatorSet nested.classAnnotations).entries with
  | nil =>
    rw [hentries, Keyed.get?_nil] at hsome
    rw [← hsome] at htold
    cases htold
  | cons entry rest =>
    rw [passesOver, hentries]
    rfl

/-- Without a value among the facts, a discriminator that is read of `nested` has none. -/
theorem value_of_told {D : Discriminator} (hvalue : values .value = none)
    (htold : toldDiscriminator (discriminatorSet nested.classAnnotations)
      nested.classAnnotations = .ok D) : D.value = none := by
  have habsent : (discriminatorSet nested.classAnnotations).entries.get? "value" =
      none := (h.nested_entries.1 .value).trans hvalue
  have hread := (Discriminator.toldIn_of_told htold).value
  rw [nestedOrFlat_of_absent (h.nestedOnly .value), firstText?_of_absent (by simp),
    text?_of_absent habsent] at hread
  exact (Except.ok.inj hread).symm

/-- With a value or a column told, both notations lead to the same discriminator. -/
theorem classicDiscriminator_agree
    (htold : (values .value).isSome = true ∨ (values .column).isSome = true) :
    Agree Eq (classicDiscriminator flat.classAnnotations)
      (classicDiscriminator nested.classAnnotations) := by
  have hflat : passesOver flat.classAnnotations = false := by
    rw [h.passesOver_flat]
    rcases htold with htold | htold <;> simp [htold]
  rw [classicDiscriminator_eq, classicDiscriminator_eq, hflat, h.passesOver_nested]
  exact h.told_agree.map some

/-- With neither of them told, the flat keys give no discriminator and the nested set gives one
without a value, or is refused. -/
theorem classicDiscriminator_apart (hvalue : values .value = none)
    (hcolumn : values .column = none) :
    classicDiscriminator flat.classAnnotations = .ok none ∧
    (Refused (classicDiscriminator nested.classAnnotations) ∨
      ∃ D, classicDiscriminator nested.classAnnotations = .ok (some D) ∧ D.value = none) := by
  have hflat : passesOver flat.classAnnotations = true := by
    rw [h.passesOver_flat, hvalue, hcolumn]
    rfl
  rw [classicDiscriminator_eq, classicDiscriminator_eq, hflat, h.passesOver_nested]
  refine ⟨rfl, ?_⟩
  cases hD : toldDiscriminator (discriminatorSet nested.classAnnotations)
      nested.classAnnotations with
  | error e => exact Or.inl ⟨e, rfl⟩
  | ok D => exact Or.inr ⟨D, rfl, h.value_of_told hvalue hD⟩

end TellsAlike

/-! ## Entities -/

/-- The other facts of a classic class are read under other keys than those of the discriminator. -/
theorem classicClassKeys_apart : ∀ key ∈ classicClassKeys, key ∉ discriminatorKeys := by
  decide +kernel

/-- A class is refused when its discriminator is. -/
theorem refused_of_classicDiscriminator {d : Descriptor} (hclassic : d.dialect = .classic)
    (h : Refused (classicDiscriminator d.classAnnotations)) :
    Refused (MappedEntity.ofDescriptor d fallback).outcome := by
  have hread : Refused (ClassFacts.read d) := by
    refine .later fun name _ => ?_
    rw [hclassic]
    exact h.first _
  exact .laterReport fun properties _ => hread.firstReport _

namespace MappedEntity

/-- With a value or a column told, both notations are refused or lead to the same entity. -/
theorem agree_of_tellsAlike (h : TellsAlike values flat nested)
    (htold : (values .value).isSome = true ∨ (values .column).isSome = true) :
    Agree Eq (ofDescriptor flat fallback).outcome (ofDescriptor nested fallback).outcome := by
  have hsame : Agree (ApartBy Eq) (ofDescriptor flat fallback).outcome
      (ofDescriptor nested fallback).outcome :=
    ofDescriptor_agree h.same classicClassKeys_apart h.classic (fun D D' hD => by rw [hD])
      (h.classicDiscriminator_agree htold)
  refine hsame.mono ?_
  rintro e e' ⟨hD, he⟩
  rw [he, ← hD]

/-- With neither of them told, the two entities have the same discriminator only where there are
none, that is, where the flat notation is refused. -/
theorem agree_iff_refused (h : TellsAlike values flat nested) (hvalue : values .value = none)
    (hcolumn : values .column = none) :
    Agree (fun e e' => e.discriminator = e'.discriminator) (ofDescriptor flat fallback).outcome
        (ofDescriptor nested fallback).outcome ↔
      Refused (ofDescriptor flat fallback).outcome := by
  obtain ⟨hflat, hnested⟩ := h.classicDiscriminator_apart hvalue hcolumn
  have hclassic := dialect_eq_classic h.same classicClassKeys_apart h.classic
  -- the nested notation is refused, or has a discriminator where the flat one has none
  rcases hnested with hrefused | ⟨D, hnested, hD⟩
  · have hrefused : Refused (ofDescriptor nested fallback).outcome :=
      refused_of_classicDiscriminator hclassic hrefused
    exact ⟨fun hagree => hrefused.of_agree hagree, fun hflat => hflat.agree hrefused⟩
  · have hapart : Agree (ApartBy fun D D' => D = none ∧ ∃ told, D' = some told ∧ told.value = none)
        (ofDescriptor flat fallback).outcome (ofDescriptor nested fallback).outcome := by
      refine ofDescriptor_agree h.same classicClassKeys_apart h.classic ?_ ?_
      · rintro _ _ ⟨rfl, told, rfl, htold⟩
        exact htold.symm
      · rw [hflat, hnested]
        exact .given ⟨rfl, D, rfl, hD⟩
    refine hapart.iff_refused fun e e' happart hsame => ?_
    obtain ⟨⟨hnone, told, htold, -⟩, -⟩ := happart
    rw [hnone, htold] at hsame
    cases hsame

end MappedEntity

/-! ## Renditions -/

namespace DiscriminatorFact

variable (values : DiscriminatorFact → Option Value)

/-- The flat keys with their values. -/
def flatCells : Cells :=
  all.map fun fact => (fact.flatKey, values fact)

/-- The keys of the nested set with their values. -/
def nestedCells : Cells :=
  all.map fun fact => (fact.nestedKey, values fact)

/-- The list of facts is complete. -/
theorem mem_all (fact : DiscriminatorFact) : fact ∈ all := by
  cases fact <;> decide

/-- The flat cells have the flat keys, whatever the values are. -/
theorem keys_flatCells : (flatCells values).map (·.1) = all.map (·.flatKey) :=
  rfl

/-- The nested cells have the nested keys, whatever the values are. -/
theorem keys_nestedCells : (nestedCells values).map (·.1) = all.map (·.nestedKey) :=
  rfl

/-- No two facts share a key in either notation. -/
theorem nodup_keys : (all.map (·.flatKey)).Nodup ∧ (all.map (·.nestedKey)).Nodup := by
  decide +kernel

/-- The flat key of a fact is one of `discriminatorKeys`. -/
theorem flatKey_mem (fact : DiscriminatorFact) : fact.flatKey ∈ discriminatorKeys :=
  List.mem_cons_of_mem _ (List.mem_map_of_mem (mem_all fact))

/-- No fact has the key of the nested set for its flat key. -/
theorem flatKey_ne (fact : DiscriminatorFact) : fact.flatKey ≠ "discriminator" := by
  cases fact <;> decide

/-- Each fact is found under its flat key with its value. -/
theorem get?_flatCells (fact : DiscriminatorFact) :
    (present (flatCells values)).get? fact.flatKey = values fact := by
  refine get?_present_of_mem ?_ (List.mem_map_of_mem (mem_all fact))
  rw [keys_flatCells]
  exact nodup_keys.1

/-- Each fact is found under its nested key with its value. -/
theorem get?_nestedCells (fact : DiscriminatorFact) :
    (present (nestedCells values)).get? fact.nestedKey = values fact := by
  refine get?_present_of_mem ?_ (List.mem_map_of_mem (mem_all fact))
  rw [keys_nestedCells]
  exact nodup_keys.2

end DiscriminatorFact

/-- The class with further annotations. -/
def Descriptor.annotated (d : Descriptor) (more : Keyed Value) : Descriptor :=
  { d with own := { d.own with annotations := d.own.annotations ++ more } }

/-- What the class has already goes before the further annotations. -/
theorem get?_annotated (d : Descriptor) (more : Keyed Value) (key : String) :
    (d.annotated more).annotations.get? key = (d.annotations.get? key).or (more.get? key) :=
  List.lookup_append

/-- Any facts can be told in both notations of a classic class `d` that says nothing of a
discriminator, as long as there is some fact. -/
theorem tellsAlike_annotated {d : Descriptor} (hclassic : d.dialect = .classic)
    (hfree : ∀ key ∈ discriminatorKeys, d.annotations.get? key = none)
    (htold : ∃ fact, (values fact).isSome = true) :
    TellsAlike values (d.annotated (present (DiscriminatorFact.flatCells values)))
      (d.annotated [("discriminator", .map (present (DiscriminatorFact.nestedCells values)))]) := by
  have hflatOnly : "discriminator" ∉ DiscriminatorFact.all.map (·.flatKey) := by decide
  have hunnamed : "name" ∉ DiscriminatorFact.all.map (·.nestedKey) := by decide
  constructor
  case classic =>
    -- the class keeps its mark when annotations are added
    unfold Descriptor.dialect Dialect.classify Keyed.has at hclassic ⊢
    rw [get?_annotated, Option.isSome_or]
    split at hclassic
    · next hmarked => simp [hmarked]
    · cases hclassic
  case same =>
    refine ⟨rfl, rfl, rfl, fun key hkey => ?_⟩
    obtain ⟨hnested, hflat⟩ := not_or.mp (mt List.mem_cons.mpr hkey)
    rw [get?_annotated, get?_annotated, get?_present_of_not_mem hflat, Keyed.get?_cons,
      if_neg hnested, Keyed.get?_nil]
  case flatKeys =>
    intro fact
    rw [get?_annotated, hfree _ fact.flatKey_mem, Option.none_or, DiscriminatorFact.get?_flatCells]
  case flatOnly =>
    rw [get?_annotated, hfree _ List.mem_cons_self, Option.none_or,
      get?_present_of_not_mem hflatOnly]
  case nestedKeys =>
    refine ⟨present (DiscriminatorFact.nestedCells values), ?_, fun fact => ?_, ?_⟩
    · rw [get?_annotated, hfree _ List.mem_cons_self, Option.none_or, Keyed.get?_cons, if_pos rfl]
    · exact DiscriminatorFact.get?_nestedCells values fact
    · exact get?_present_of_not_mem hunnamed
  case nestedOnly =>
    intro fact
    rw [get?_annotated, hfree _ fact.flatKey_mem, Option.none_or, Keyed.get?_cons,
      if_neg fact.flatKey_ne, Keyed.get?_nil]
  case told => exact htold

namespace MappedEntity

/-- The two notations lead to the same discriminator exactly when a value or a column is told, or
the flat notation is refused. With one of the two told, all of the entity is the same. -/
theorem agree_iff_of_tellsAlike (h : TellsAlike values flat nested) :
    (Agree (fun e e' => e.discriminator = e'.discriminator) (ofDescriptor flat fallback).outcome
        (ofDescriptor nested fallback).outcome ↔
      (values .value).isSome = true ∨ (values .column).isSome = true ∨
        Refused (ofDescriptor flat fallback).outcome) ∧
    ((values .value).isSome = true ∨ (values .column).isSome = true →
      Agree Eq (ofDescriptor flat fallback).outcome (ofDescriptor nested fallback).outcome) := by
  refine ⟨?_, agree_of_tellsAlike h⟩
  -- the case where neither is told is `agree_iff_refused`
  by_cases htold : (values .value).isSome = true ∨ (values .column).isSome = true
  · have hagree : Agree (fun e e' => e.discriminator = e'.discriminator)
        (ofDescriptor flat fallback).outcome (ofDescriptor nested fallback).outcome :=
      (agree_of_tellsAlike h htold).mono fun e e' he => congrArg discriminator he
    exact ⟨fun _ => or_assoc.mp (Or.inl htold), fun _ => hagree⟩
  · obtain ⟨hvalue, hcolumn⟩ := not_or.mp htold
    rw [agree_iff_refused h (by simpa using hvalue) (by simpa using hcolumn)]
    simp [hvalue, hcolumn]

/-- Cars with an identifier. -/
def bareCar : Descriptor where
  own := {
    name := "Car"
    annotations := [("persistent", .null)]
    properties := [{ name := "id", annotations := [("fieldtype", .str "id")] }] }

/-- Cars that tell their discriminator by flat keys. -/
def flatCar (values : DiscriminatorFact → Option Value) : Descriptor :=
  bareCar.annotated (present (DiscriminatorFact.flatCells values))

/-- Cars that tell their discriminator by a nested set. -/
def nestedCar (values : DiscriminatorFact → Option Value) : Descriptor :=
  bareCar.annotated
    [("discriminator", .map (present (DiscriminatorFact.nestedCells values)))]

/-- Cars tell any facts alike in both notations. -/
theorem tellsAlike_car {values : DiscriminatorFact → Option Value} (fact : DiscriminatorFact)
    (h : (values fact).isSome = true) : TellsAlike values (flatCar values) (nestedCar values) :=
  tellsAlike_annotated rfl (by decide +kernel) ⟨fact, h⟩

/-- A column and a value, with values of several shapes. -/
def kindFacts : DiscriminatorFact → Option Value
  | .value => some (.int 7)
  | .column => some (.str " kind ")
  | .type => none
  | .formula => some .null
  | .force => some .null
  | .insert => some (.str "no")

/-- A column, a value and two flags make the same discriminator in both notations of a car. -/
theorem agree_iff_of_tellsAlike_kind :
    TellsAlike kindFacts (flatCar kindFacts) (nestedCar kindFacts) ∧
    Agree Eq (ofDescriptor (flatCar kindFacts) none).outcome
      (ofDescriptor (nestedCar kindFacts) none).outcome ∧
    (ofDescriptor (flatCar kindFacts) none).outcome.toOption.map (·.discriminator) =
      some (some { value := some "7", column := some "kind", force := true, insert := false }) := by
  have htells : TellsAlike kindFacts (flatCar kindFacts) (nestedCar kindFacts) :=
    tellsAlike_car .value rfl
  exact ⟨htells, (agree_iff_of_tellsAlike htells).2 (Or.inl rfl), by decide +kernel⟩

/-- A formula alone. -/
def formulaFacts : DiscriminatorFact → Option Value
  | .formula => some (.str "kind")
  | _ => none

/-- A formula is passed over among the flat keys, and counts in the nested set. -/
theorem formula_passedOver :
    TellsAlike formulaFacts (flatCar formulaFacts) (nestedCar formulaFacts) ∧
    ∃ e e', (ofDescriptor (flatCar formulaFacts) none).outcome = .ok e ∧
      (ofDescriptor (nestedCar formulaFacts) none).outcome = .ok e' ∧
      e.discriminator = none ∧ e'.discriminator = some { formula := some "kind" } := by
  have hflat : (ofDescriptor (flatCar formulaFacts) none).outcome.toOption.map (·.discriminator) =
      some none := by decide +kernel
  have hnested : (ofDescriptor (nestedCar formulaFacts) none).outcome.toOption.map
      (·.discriminator) = some (some { formula := some "kind" }) := by decide +kernel
  obtain ⟨e, he, hdiscriminator⟩ := Option.map_eq_some_iff.mp hflat
  obtain ⟨e', he', hdiscriminator'⟩ := Option.map_eq_some_iff.mp hnested
  exact ⟨tellsAlike_car .formula rfl, e, e', eq_ok_of_toOption he, eq_ok_of_toOption he',
    hdiscriminator, hdiscriminator'⟩

end MappedEntity

end OrmMapping
