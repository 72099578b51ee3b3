import OrmMapping.Proofs.Annotation.Footprint
import OrmMapping.Property.Mapping

/-!
# What is read on properties

Each vocabulary reads the annotations of a property under keys of its own. A property is mapped
alike, with the same faults and warnings, whatever stands under all other keys.

* `Dialect.propertyKeys`: the keys under which a vocabulary reads;
* `readModern_alike`, `readClassic_alike`: reading, step by step as the readers go;
* `ofDecl_alike`: mapping.
-/

namespace OrmMapping

/-- The keys under which a property has sets, each with the entry that shorthand stands for. -/
def Dialect.propertyShorthands : Dialect → Keyed String
  | .classic => []
  | .modern =>
    [("column", "name"), ("joincolumn", "name"), ("jointable", "name"),
      ("generatedvalue", "strategy"), ("onetoone", "targetentity"), ("manytoone", "targetentity"),
      ("onetomany", "targetentity"), ("manytomany", "targetentity")]

/-- The keys of the flat vocabulary but that of the parameters. -/
def classicFactKeys : List String :=
  ["persistent", "fieldtype", "id", "ormtype", "sqltype", "type", "formula", "column", "length",
    "precision", "scale", "dbdefault", "table", "uniquekey", "unique", "notnull", "insert",
    "update", "readonly", "optimisticlock", "unsavedvalue", "datatype", "generator", "sequence",
    "selectkey", "property", "generated", "linktable", "fkcolumn", "cfc", "class", "lazy",
    "foreignkeyname", "foreignkey", "mappedby", "cascade", "fetch", "constrained", "inverse",
    "orderby", "where", "batchsize", "missingrowignored", "structkeycolumn", "structkeytype",
    "structkeyformula", "elementcolumn", "elementtype", "elementformula", "linkschema",
    "linkcatalog", "inversejoincolumn"]

/-- The keys under which a property has single values. -/
def Dialect.propertyValueKeys : Dialect → List String
  | .classic => "params" :: classicFactKeys
  | .modern =>
    ["transient", "id", "version", "ormtype", "sqltype", "type", "formula", "unique", "notnull",
      "immutable", "lazy", "optimisticlock", "unsavedvalue"]

/-- The keys under which a vocabulary reads on a property. -/
def Dialect.propertyKeys (dialect : Dialect) : ReadKeys :=
  ⟨dialect.propertyValueKeys, dialect.propertyShorthands⟩

variable {a a' : Annotations} {name : String}

/-! ## The structured vocabulary -/

section Modern

variable (h : a.AlikeUnder Dialect.modern.propertyKeys a')

include h

/-- The same key of a relationship is found first in both sets: only the presence of these keys
counts. -/
theorem modernRelation?_alike : modernRelation? a' = modernRelation? a := by
  simp (disch := decide) only [modernRelation?, relationKeys, List.find?_cons, List.find?_nil,
    h.has_set_eq]

/-- If `modernRelation?` finds a key, then the sets under that key are the same. -/
theorem nested_relation_alike {pair : String × AssociationKind}
    (hpair : modernRelation? a = some pair) :
    a'.nested pair.1 "targetentity" = a.nested pair.1 "targetentity" := by
  have hkeys : ∀ pair ∈ relationKeys,
      Dialect.modern.propertyKeys.sets.get? pair.1 = some "targetentity" := by decide
  exact h.nested_eq (hkeys pair (List.mem_of_find?_eq_some hpair))

/-- Both sets declare the same kind, or raise the same error. -/
theorem modernKind_alike : modernKind a' = modernKind a := by
  simp (disch := decide) only [modernKind, h.flag_eq, modernRelation?_alike h]

/-- The facts that properties of every kind have are read alike from both sets. -/
theorem modernCommon_alike (kind : FieldKind) :
    modernCommon name kind a' = modernCommon name kind a := by
  simp (disch := decide) only [modernCommon, modernSqlType?, Annotations.sqlType?, modernUnique,
    modernNotNull, h.has_eq, h.text?_eq, h.flag_eq, h.nested_eq]

/-- A generator is read alike from both sets. -/
theorem modernWithGenerator_alike (facts : PropertyFacts) :
    modernWithGenerator facts a' = modernWithGenerator facts a := by
  simp (disch := decide) only [modernWithGenerator, modernGenerator, h.nested_eq]

/-- A relationship is read alike from both sets, where there is one. -/
theorem modernWithRelation_alike (facts : PropertyFacts) :
    modernWithRelation facts a' = modernWithRelation facts a := by
  unfold modernWithRelation
  rw [modernRelation?_alike h]
  -- the relationship that is found settles which set is read
  cases hfound : modernRelation? a with
  | none => cases facts.kind <;> rfl
  | some pair =>
    obtain ⟨key, kind⟩ := pair
    have hrelation := nested_relation_alike h hfound
    dsimp only at hrelation
    cases facts.kind <;> simp (disch := decide) only [h.nested_eq, hrelation]

/-- Sets that are alike under the keys of the structured vocabulary are read alike. -/
theorem readModern_alike :
    PropertyFacts.readModern name a' = PropertyFacts.readModern name a := by
  simp (disch := decide) only [PropertyFacts.readModern, h.flag_eq, modernKind_alike h,
    modernCommon_alike h, modernWithGenerator_alike h, modernWithRelation_alike h]

end Modern

/-! ## The flat vocabulary -/

section Classic

variable (h : a.AlikeUnder ⟨classicFactKeys, []⟩ a')

include h

/-- Both sets declare the same kind, or raise the same error. -/
theorem classicKind_alike : classicKind a' = classicKind a := by
  simp (disch := decide) only [classicKind, h.text?_eq, h.malformed_eq]

theorem classicCommon_alike (kind : FieldKind) :
    classicCommon name kind a' = classicCommon name kind a := by
  simp (disch := decide) only [classicCommon, ColumnFacts.read, Annotations.sqlType?, h.has_eq,
    h.text?_eq, h.flag_eq, h.integer?_eq, h.optionalFlag_eq]

theorem classicWithGenerator_alike (hparams : a'.parameters "params" = a.parameters "params")
    (facts : PropertyFacts) : classicWithGenerator facts a' = classicWithGenerator facts a := by
  simp (disch := decide) only [classicWithGenerator, classicGenerator, classicOwnParams, h.text?_eq,
    hparams]

/-- A relationship is read alike from both sets, or the same error is raised. -/
theorem classicWithRelation_alike (facts : PropertyFacts) :
    classicWithRelation facts a' = classicWithRelation facts a := by
  simp (disch := decide) only [classicWithRelation, classicTarget, RelationFacts.read,
    CollectionFacts.read, LinkFacts.read, h.firstText?_eq, h.has_eq, h.text?_eq, h.flag_eq,
    h.integer?_eq, h.malformed_eq]

/-- Sets that are alike under the keys of the flat vocabulary are read alike, where `hparams` says
the same of the parameters. -/
theorem readClassic_alike (hparams : a'.parameters "params" = a.parameters "params") :
    PropertyFacts.readClassic name a' = PropertyFacts.readClassic name a := by
  simp (disch := decide) only [PropertyFacts.readClassic, h.flag_eq, h.entity, classicKind_alike h,
    classicCommon_alike h, classicWithGenerator_alike h hparams, classicWithRelation_alike h]

end Classic

/-! ## Mapping -/

/-- The rules look at no annotation: only `entity` and `owner`, which errors mention, have to be the
same. -/
theorem ofFacts_of_same (facts : PropertyFacts) (hentity : a'.entity = a.entity)
    (howner : a'.owner = a.owner) :
    MappedProperty.ofFacts facts a' = MappedProperty.ofFacts facts a := by
  -- the entries can be left out as no rule asks for them
  have hblank : ∀ a : Annotations,
      MappedProperty.ofFacts facts a = MappedProperty.ofFacts facts ⟨[], a.entity, a.owner⟩ :=
    fun _ => rfl
  rw [hblank a', hblank a, hentity, howner]

/-- Declarations of one property of which a vocabulary reads the same. -/
structure PropertyDecl.Alike (dialect : Dialect) (decl decl' : PropertyDecl) : Prop where
  name : decl'.name = decl.name
  annotations : AlikeUnder dialect.propertyKeys decl.annotations decl'.annotations

/-- Every declaration is alike to itself. -/
theorem PropertyDecl.Alike.refl (dialect : Dialect) (decl : PropertyDecl) :
    decl.Alike dialect decl :=
  ⟨rfl, .refl _ _⟩

variable {dialect : Dialect} {decl decl' : PropertyDecl}

/-- `PropertyFacts.read` looks at the keys of its vocabulary only. -/
theorem read_alike (h : a.AlikeUnder dialect.propertyKeys a') :
    PropertyFacts.read name dialect a' = PropertyFacts.read name dialect a := by
  cases dialect with
  | classic =>
    -- parameters have a reader of their own and are handled apart from the other values
    have hfacts : a.AlikeUnder ⟨classicFactKeys, []⟩ a' :=
      ⟨h.entity, h.owner, h.entries.of_values (by decide)⟩
    exact readClassic_alike hfacts (h.parameters_eq (by decide))
  | modern => exact readModern_alike h

/-- A property is mapped alike, with the same faults and warnings, whatever stands under keys that
are not read. -/
theorem ofDecl_alike (h : decl.Alike dialect decl') (entity : String) :
    MappedProperty.ofDecl decl' dialect entity = MappedProperty.ofDecl decl dialect entity := by
  have hset : (decl.annotationSet entity).AlikeUnder dialect.propertyKeys
      (decl'.annotationSet entity) :=
    ⟨rfl, congrArg some h.name, h.annotations⟩
  unfold MappedProperty.ofDecl
  simp only [h.name, read_alike hset, ofFacts_of_same _ hset.entity hset.owner]

end OrmMapping
