import OrmMapping.Descriptor.Validation
import OrmMapping.Proofs.Annotation.ParameterNotations
import OrmMapping.Proofs.Property.Coherence
import OrmMapping.Proofs.Property.Footprint

/-!
# Parameters of identifiers

The parameters of a generator are read at one place of the annotations and change nothing else: a
property is mapped, with the same faults and warnings, as it would be without them, and they come
after the parameters that have keys of their own.

* `ParameterPlace`: the annotations of a property around its parameters;
* `readClassic_addParams`, `ofDecl_addParams`: what parameters do to the facts and to the mapping;
* `ofDecl_of_notations`: the three notations.
-/

namespace OrmMapping

variable {a a' : Annotations} {name : String} {params : List (String × String)}

/-! ## Loaded properties -/

/-- A property as it is loaded: the keys of its annotations are in lower case. -/
def PropertyDecl.loaded (name : String) (annotations : Keyed Value) : PropertyDecl :=
  ⟨name, foldEntries annotations⟩

/-- The annotations of a property around its parameters: what is written before and after them, and
the key in any case. No later annotation takes their place. -/
structure ParameterPlace where
  before : Keyed Value
  key : String := "params"
  after : Keyed Value := []
  lower_key : Text.lower key = "params" := by decide
  last : ∀ entry ∈ after, Text.lower entry.1 ≠ "params" := by decide

namespace ParameterPlace

/-- The annotations with a value for the parameters. -/
def fill (c : ParameterPlace) (value : Value) : Keyed Value :=
  c.before ++ (c.key, value) :: c.after

/-- The property in a descriptor, with a value for its parameters. -/
def property (c : ParameterPlace) (name : String) (value : Value) : Value :=
  .map [("name", .str name), ("annotations", .map (c.fill value))]

/-- A descriptor with `c.property name value` declares the loaded property. -/
theorem ofValue_property (c : ParameterPlace) (place : List String) (name : String)
    (value : Value) :
    PropertyDecl.ofValue place (c.property name value) = .ok (.loaded name (c.fill value)) :=
  rfl

/-- The value is found under `params`, folded, and what is found under another key does not depend
on it. -/
theorem get?_foldEntries_fill (c : ParameterPlace) (value : Value) (key : String) :
    (foldEntries (c.fill value)).get? key =
      if key = "params" then some value.foldKeys
      else ((Value.foldPairs c.after).reverse.lookup key).or
        ((Value.foldPairs c.before).reverse.lookup key) := by
  have hpairs : Value.foldPairs (c.fill value) =
      Value.foldPairs c.before ++ ("params", value.foldKeys) :: Value.foldPairs c.after := by
    simp only [fill, Value.foldPairs_eq_map, List.map_append, List.map_cons, c.lower_key]
  rw [foldEntries, Keyed.get?_ofPairs, hpairs, List.reverse_append, List.reverse_cons,
    List.append_assoc, List.lookup_append]
  by_cases hkey : key = "params"
  · subst hkey
    -- no later annotation takes the place of the parameters
    have hnone : (Value.foldPairs c.after).reverse.lookup "params" = none := by
      rw [List.lookup_eq_none_iff, Value.foldPairs_eq_map]
      intro entry hentry
      obtain ⟨other, hother, rfl⟩ := List.mem_map.mp (List.mem_reverse.mp hentry)
      simpa using Ne.symm (c.last other hother)
    simp [hnone]
  · simp [hkey, List.lookup_cons, beq_eq_false_iff_ne.mpr hkey]

/-- The facts of the flat vocabulary do not depend on the value of the parameters. -/
theorem alikeUnder_fill (c : ParameterPlace) (value value' : Value) :
    AlikeUnder ⟨classicFactKeys, []⟩ (foldEntries (c.fill value))
      (foldEntries (c.fill value')) := by
  refine ⟨fun key hkey => ?_, fun _ hkey => absurd hkey List.not_mem_nil, fun _ _ hkey => by
    cases hkey⟩
  have hne : key ≠ "params" := by
    rintro rfl
    exact absurd hkey (by decide)
  rw [get?_foldEntries_fill, get?_foldEntries_fill, if_neg hne, if_neg hne]

end ParameterPlace

/-! ## What parameters change -/

/-- The facts of a generator with further parameters. -/
def GeneratorFacts.addParams (params : List (String × String)) (facts : GeneratorFacts) :
    GeneratorFacts :=
  { facts with params := facts.params ++ params }

/-- The facts of a property with further parameters, which only an identifier has. -/
def PropertyFacts.addParams (params : List (String × String)) (facts : PropertyFacts) :
    PropertyFacts :=
  if facts.kind == .id then { facts with generator := facts.generator.addParams params } else facts

/-- A generator with further parameters. -/
def Generator.addParams (params : List (String × String)) (g : Generator) : Generator :=
  { g with params := g.params ++ params }

/-- A mapped property with further parameters, if it has a generator. -/
def MappedProperty.addParams (params : List (String × String)) (p : MappedProperty) :
    MappedProperty :=
  { p with generator := p.generator.map (·.addParams params) }

/-- An identifier gets the parameters. -/
theorem PropertyFacts.addParams_of_id {facts : PropertyFacts} (hid : facts.kind = .id) :
    facts.addParams params = { facts with generator := facts.generator.addParams params } := by
  rw [addParams, if_pos (by rw [hid]; rfl)]

/-- Any other property is left as it is. -/
theorem PropertyFacts.addParams_of_ne {facts : PropertyFacts} (hid : facts.kind ≠ .id) :
    facts.addParams params = facts := by
  rw [addParams, if_neg (by simpa using hid)]

/-! ## Reading -/

section Reading

variable (h : a.AlikeUnder ⟨classicFactKeys, []⟩ a')
  (hnone : a.parameters "params" = ⟨[], .ok []⟩)
  (hparams : a'.parameters "params" = ⟨[], .ok params⟩)

include h hnone hparams

/-- A generator that is read with `params` has them after those with keys of their own. -/
theorem classicGenerator_addParams :
    classicGenerator a' = GeneratorFacts.addParams params <$> classicGenerator a := by
  simp (disch := decide) only [classicGenerator, classicOwnParams, h.text?_eq, hnone, hparams,
    map_bind]
  refine bind_congr fun strategy => bind_congr fun sequence => bind_congr fun selectKey =>
    bind_congr fun own => ?_
  show (⟨[], .ok _⟩ : Report GeneratorFacts) = ⟨[], .ok _⟩
  simp [GeneratorFacts.addParams]

/-- The step that adds a generator adds `params` to identifiers only. -/
theorem classicWithGenerator_addParams (facts : PropertyFacts) :
    classicWithGenerator facts a' =
      PropertyFacts.addParams params <$> classicWithGenerator facts a := by
  unfold classicWithGenerator
  split
  · next hid =>
    rw [classicGenerator_addParams h hnone hparams, bind_map_left, map_bind]
    refine bind_congr fun generator => ?_
    rw [map_pure, PropertyFacts.addParams_of_id (by simpa using hid)]
  · next hid => rw [map_pure, PropertyFacts.addParams_of_ne (by simpa using hid)]

omit hnone hparams in
/-- A relationship is read as it would be without parameters. -/
theorem classicWithRelation_addParams (params : List (String × String)) (facts : PropertyFacts) :
    classicWithRelation (facts.addParams params) a' =
      PropertyFacts.addParams params <$> classicWithRelation facts a := by
  rw [classicWithRelation_alike h]
  by_cases hid : facts.kind = .id
  · simp only [classicWithRelation, hid, map_bind, map_pure, PropertyFacts.addParams]
    rfl
  · -- the kind stays, so that there is no identifier afterwards either
    rw [PropertyFacts.addParams_of_ne hid]
    cases hread : classicWithRelation facts a with
    | error e => rfl
    | ok facts' =>
      have hkind : facts'.kind ≠ .id := by rwa [(classicRelated_of_read hread).kind_eq]
      exact congrArg Except.ok (PropertyFacts.addParams_of_ne hkind).symm

/-- Reading with `params` gives the facts that are read without them, with `params` added. -/
theorem readClassic_addParams :
    PropertyFacts.readClassic name a' =
      Option.map (PropertyFacts.addParams params) <$> PropertyFacts.readClassic name a := by
  simp (disch := decide) only [PropertyFacts.readClassic, h.flag_eq, h.entity, classicKind_alike h,
    classicCommon_alike h, classicWithGenerator_addParams h hnone hparams, map_bind, bind_map_left,
    classicWithRelation_addParams h, Report.liftM_map]
  refine bind_congr fun persistent => ?_
  split
  · rfl
  · rw [map_bind]
    refine bind_congr fun declared => ?_
    split
    · rfl
    · simp only [map_bind, map_pure, Option.map_some]

end Reading

/-! ## Mapping -/

theorem Generator.ofFacts_addParams (params : List (String × String)) (facts : GeneratorFacts)
    (a : Annotations) :
    Generator.ofFacts (facts.addParams params) a =
      Generator.addParams params <$> Generator.ofFacts facts a := by
  unfold Generator.ofFacts GeneratorFacts.addParams
  dsimp only
  split <;> rfl

/-- Parameters of the facts are parameters of the generator. -/
theorem generator?_addParams (params : List (String × String)) (facts : PropertyFacts)
    (a : Annotations) :
    (facts.addParams params).generator? a =
      Option.map (Generator.addParams params) <$> facts.generator? a := by
  by_cases hid : facts.kind = .id
  · rw [PropertyFacts.addParams_of_id hid]
    simp only [PropertyFacts.generator?, hid, beq_self_eq_true, if_true,
      Generator.ofFacts_addParams]
    cases Generator.ofFacts facts.generator a <;> rfl
  · have hkind : (facts.kind == .id) = false := by simpa using hid
    rw [PropertyFacts.addParams_of_ne hid]
    simp only [PropertyFacts.generator?, hkind, Bool.false_eq_true, if_false]
    rfl

/-- A relationship does not depend on parameters. -/
theorem association?_addParams (params : List (String × String)) (facts : PropertyFacts)
    (a : Annotations) : (facts.addParams params).association? a = facts.association? a := by
  by_cases hid : facts.kind = .id
  · simp only [PropertyFacts.addParams_of_id hid, PropertyFacts.association?, hid]
  · rw [PropertyFacts.addParams_of_ne hid]

/-- The type depends on the strategy of the generator, not on its parameters. -/
theorem mappedType_addParams (params : List (String × String)) (facts : PropertyFacts)
    (generator : Option Generator) (a : Annotations) :
    MappedType.ofFacts (facts.addParams params) (generator.map (·.addParams params)) a =
      MappedType.ofFacts facts generator a := by
  unfold PropertyFacts.addParams
  split <;> cases generator <;> rfl

/-- The rules make of the facts with `params` the property with `params`, with the same warnings and
errors. -/
theorem ofFacts_addParams (params : List (String × String)) (facts : PropertyFacts)
    (a : Annotations) :
    MappedProperty.ofFacts (facts.addParams params) a =
      MappedProperty.addParams params <$> MappedProperty.ofFacts facts a := by
  unfold MappedProperty.ofFacts
  rw [generator?_addParams, Report.liftM_map, bind_map_left, association?_addParams, map_bind]
  refine bind_congr fun generator => ?_
  rw [map_bind]
  refine bind_congr fun association => ?_
  rw [map_bind, mappedType_addParams]
  dsimp only
  refine bind_congr fun type => ?_
  -- no other fact is touched
  rw [map_pure]
  unfold PropertyFacts.addParams
  split <;> rfl

/-- A loaded property with parameters is mapped as it would be without them, with the same warnings
and errors, and its generator has them after its own. -/
theorem ofDecl_addParams (c : ParameterPlace) (name entity : String) {value : Value}
    (h : ∀ a : Annotations, a.entries.get? "params" = some value.foldKeys →
      a.parameters "params" = ⟨[], .ok params⟩) :
    MappedProperty.ofDecl (.loaded name (c.fill value)) .classic entity =
      Option.map (MappedProperty.addParams params) <$>
        MappedProperty.ofDecl (.loaded name (c.fill .null)) .classic entity := by
  let a := (PropertyDecl.loaded name (c.fill .null)).annotationSet entity
  let a' := (PropertyDecl.loaded name (c.fill value)).annotationSet entity
  have halike : a.AlikeUnder ⟨classicFactKeys, []⟩ a' := ⟨rfl, rfl, c.alikeUnder_fill .null value⟩
  -- in the place that is filled with nothing, no parameters are read
  have hnone : a.parameters "params" = ⟨[], .ok []⟩ := by
    have hvalue : a.value "params" = .null := by
      show ((foldEntries (c.fill .null)).get? "params").getD .null = .null
      rw [c.get?_foldEntries_fill]
      rfl
    simp only [Annotations.parameters, hvalue]
    rfl
  have hparams : a'.parameters "params" = ⟨[], .ok params⟩ := by
    refine h a' ?_
    show (foldEntries (c.fill value)).get? "params" = some value.foldKeys
    rw [c.get?_foldEntries_fill, if_pos rfl]
  -- the reader adds the parameters, and the rules carry them over
  have hread : PropertyFacts.readClassic name a' =
      Option.map (PropertyFacts.addParams params) <$> PropertyFacts.readClassic name a :=
    readClassic_addParams halike hnone hparams
  show (PropertyFacts.readClassic name a' >>= _) = _ <$> (PropertyFacts.readClassic name a >>= _)
  rw [hread, bind_map_left, map_bind]
  refine bind_congr fun facts => ?_
  cases facts with
  | none => rfl
  | some facts =>
    show (MappedProperty.ofFacts (facts.addParams params) a' >>= _) = _
    rw [ofFacts_of_same _ halike.entity halike.owner, ofFacts_addParams, bind_map_left, map_bind]
    rfl

namespace MappedProperty

variable {p : PlainParameters} {decl : PropertyDecl} {dialect : Dialect} {entity : String}
  {q : MappedProperty}

/-- A mapped identifier has a generator. -/
theorem isSome_generator_of_isId
    (h : (MappedProperty.ofDecl decl dialect entity).outcome = .ok (some q)) (hid : q.isId = true) :
    q.generator.isSome = true := by
  obtain ⟨facts, hsound, hmapped⟩ := exists_facts_of_ofDecl h
  exact (coherent_of_ofFacts hsound hmapped).generator.mpr (by simpa [isId] using hid)

/-- If there is a generator, then different parameters give different properties. -/
theorem addParams_eq_iff {params params' : List (String × String)}
    (h : q.generator.isSome = true) :
    q.addParams params = q.addParams params' ↔ params = params' := by
  obtain ⟨g, hg⟩ := Option.isSome_iff_exists.mp h
  constructor
  · intro heq
    have hgenerator := congrArg MappedProperty.generator heq
    simp only [addParams, hg, Option.map_some, Option.some.injEq] at hgenerator
    exact List.append_cancel_left (congrArg Generator.params hgenerator)
  · rintro rfl
    rfl

/-- Parameters of an identifier that are written as a text, in JSON or as pairs, come after those
that have keys of their own, in order and with their names as they are. Those of a nested map come
with their names in lower case, so that it agrees with the texts exactly when no name has a
capital. Nothing else of the property depends on them. -/
theorem ofDecl_of_notations (p : PlainParameters) (c : ParameterPlace) (place : List String)
    (name entity : String) :
    let mapped := fun value => (PropertyDecl.ofValue place (c.property name value)).map
      fun decl => MappedProperty.ofDecl decl .classic entity
    ∃ bare, mapped .null = .ok bare ∧
      mapped p.value = .ok (Option.map (addParams p.lowered) <$> bare) ∧
      ∀ text, p.IsWritten text →
        mapped (.str text) = .ok (Option.map (addParams p.pairs) <$> bare) ∧
        ∀ q, bare.outcome = .ok (some q) → q.isId = true → q.generator.isSome = true ∧
          (mapped p.value = mapped (.str text) ↔
            ∀ pair ∈ p.pairs, ∀ ch ∈ pair.1.toList, ch.isUpper = false) := by
  intro mapped
  -- a descriptor with this value declares the property as loaded
  have hmapped (value : Value) :
      mapped value = .ok (ofDecl (.loaded name (c.fill value)) .classic entity) :=
    congrArg (Except.map _) (c.ofValue_property place name value)
  have hmap : ofDecl (.loaded name (c.fill p.value)) .classic entity =
      Option.map (addParams p.lowered) <$> ofDecl (.loaded name (c.fill .null)) .classic entity :=
    ofDecl_addParams c name entity fun a h => Annotations.parameters_of_value h
  refine ⟨_, hmapped .null, by rw [hmapped, hmap], fun text hwritten => ?_⟩
  have htext : ofDecl (.loaded name (c.fill (.str text))) .classic entity =
      Option.map (addParams p.pairs) <$> ofDecl (.loaded name (c.fill .null)) .classic entity :=
    ofDecl_addParams c name entity fun a h => Annotations.parameters_of_isWritten hwritten h
  refine ⟨by rw [hmapped, htext], fun q hq hid => ?_⟩
  have hgenerator := isSome_generator_of_isId hq hid
  -- all that is left is whether the two lists of parameters are the same
  refine ⟨hgenerator, ?_⟩
  rw [hmapped, hmapped, hmap, htext, Except.ok.injEq, Report.map_eq_map_iff hq, Option.map_some,
    Option.map_some, Option.some.injEq, addParams_eq_iff hgenerator, p.lowered_eq_iff]

/-- A table of high values, as an engine knows it. -/
def hiLo : PlainParameters where
  pairs := [("maxLo", "10"), ("table", "a, \x7bb\x7d")]
  nodup := by decide
  names := by decide
  values := by decide +kernel

/-- The annotations of an identifier that is made of the table. -/
def hiLoPlace : ParameterPlace where
  before := [("FieldType", .str "ID"), ("generator", .str "hilo"), ("property", .str "owner")]
  key := "Params"

/-- The parameters of `hiLo` in JSON. -/
def hiLoJson : String :=
  "\x7b\"maxLo\":\"10\",\"table\":\"a, \x7bb\x7d\"\x7d"

/-- The parameters of `hiLo` as pairs. -/
def hiLoPairs : String :=
  "\x7bmaxLo='10',table='a, \x7bb\x7d'\x7d"

/-- `hiLoJson` writes the parameters of `hiLo`. -/
theorem hiLo_isWritten_json : hiLo.IsWritten hiLoJson :=
  .json
    { entries := [
        { key := "maxLo".toList
          keySpelling := "maxLo".toList
          value := "10".toList
          valueSpelling := "10".toList
          key_spelled := Json.spelledText_self (by decide)
          value_spelled := Json.spelledText_self (by decide) },
        { key := "table".toList
          keySpelling := "table".toList
          value := "a, \x7bb\x7d".toList
          valueSpelling := "a, \x7bb\x7d".toList
          key_spelled := Json.spelledText_self (by decide)
          value_spelled := Json.spelledText_self (by decide) }] } rfl

/-- `hiLoPairs` writes them too. -/
theorem hiLo_isWritten_pairs : hiLo.IsWritten hiLoPairs :=
  .pairs
    { braced := true
      pairs := [
        { name := "maxLo".toList
          value := "10".toList
          quoting := .single
          name_ne_nil := by decide
          isNameChar_of_mem := List.all_eq_true.mp (by decide)
          separates := Or.inl rfl
          admits_of_mem := List.all_eq_true.mp (by decide) },
        { name := "table".toList
          value := "a, \x7bb\x7d".toList
          quoting := .single
          name_ne_nil := by decide
          isNameChar_of_mem := List.all_eq_true.mp (by decide)
          separates := Or.inl rfl
          admits_of_mem := List.all_eq_true.mp (by decide) }] } rfl

theorem ofDecl_of_notations_hiLo :
    let mapped := fun value => (PropertyDecl.ofValue [] (hiLoPlace.property "id" value)).map
      fun decl => MappedProperty.ofDecl decl .classic "Car"
    mapped (.str hiLoJson) = mapped (.str hiLoPairs) ∧
      mapped hiLo.value ≠ mapped (.str hiLoPairs) := by
  intro mapped
  obtain ⟨bare, hbare, -, htexts⟩ := ofDecl_of_notations hiLo hiLoPlace [] "id" "Car"
  obtain ⟨hjson, -⟩ := htexts hiLoJson hiLo_isWritten_json
  obtain ⟨hpairs, hagree⟩ := htexts hiLoPairs hiLo_isWritten_pairs
  have hid : ∃ q, bare.outcome = .ok (some q) ∧ q.isId = true := by
    obtain rfl := (Except.ok.inj hbare).symm
    exact ⟨_, rfl, rfl⟩
  obtain ⟨q, hq, hid⟩ := hid
  refine ⟨hjson.trans hpairs.symm, fun heq => ?_⟩
  have hsmall := (hagree q hq hid).2.mp heq ("maxLo", "10") List.mem_cons_self 'L' (by decide)
  exact absurd hsmall (by decide)

/-- A nested map does not keep the capitals of its names, and both texts do. -/
theorem notations_apart :
    let params := fun value =>
      (PropertyDecl.ofValue [] (hiLoPlace.property "id" value)).toOption.bind fun decl =>
        (MappedProperty.ofDecl decl .classic "Car").outcome.toOption.join.bind fun q =>
          q.generator.map (·.params)
    hiLo.IsWritten hiLoJson ∧ hiLo.IsWritten hiLoPairs ∧
      params (.str hiLoJson) =
        some [("property", "owner"), ("maxLo", "10"), ("table", "a, \x7bb\x7d")] ∧
      params (.str hiLoPairs) =
        some [("property", "owner"), ("maxLo", "10"), ("table", "a, \x7bb\x7d")] ∧
      params hiLo.value =
        some [("property", "owner"), ("maxlo", "10"), ("table", "a, \x7bb\x7d")] :=
  ⟨hiLo_isWritten_json, hiLo_isWritten_pairs, by decide +kernel⟩

end MappedProperty

end OrmMapping
