import OrmMapping.Proofs.Entity.Parts

/-!
# The identity of an entity

An entity is known by its name within its datasource. Both are read twice: when a class is found,
and when it is mapped. The two readings agree.

The readers of a class are opened here, once for each vocabulary: the structures tell under which
key each fact of a class stands.

* `ClassFacts.ClassicFrom`, `ClassFacts.ModernFrom`: what the readers give;
* `ClassFacts.read_eq_ok`: the facts of a class carry its entity name;
* `MappedEntity.ofDescriptor_eq_ok`: a mapped entity has the name and the datasource of its class.
-/

namespace OrmMapping

variable {d : Descriptor} {a : Annotations} {name : String} {facts : ClassFacts}

/-- The facts on `discriminator` stand in the nested set `inner`. -/
structure Discriminator.NestedIn (discriminator : Discriminator) (inner : Annotations) :
    Prop where
  value : inner.text? "value" = .ok discriminator.value
  column : inner.firstText? ["column", "name"] = .ok discriminator.column
  type : inner.text? "type" = .ok discriminator.type
  formula : inner.text? "formula" = .ok discriminator.formula
  force : inner.flag "force" = .ok discriminator.force
  insert : inner.flag "insert" true = .ok discriminator.insert

/-- Inversion of `modernDiscriminator`. -/
theorem Discriminator.nestedIn_of_modern {discriminator : Discriminator}
    (h : modernDiscriminator a = .ok (some discriminator)) :
    discriminator.NestedIn (a.nested "discriminator" "value") := by
  unfold modernDiscriminator at h
  split at h
  · cases h
  · simp only [bind_eq_ok, pure_eq_ok, Option.some.injEq] at h
    obtain ⟨_, hvalue, _, hcolumn, _, htype, _, hformula, _, hforce, _, hinsert, rfl⟩ := h
    exact ⟨hvalue, hcolumn, htype, hformula, hforce, hinsert⟩

/-- The facts of a class stand in the flat set `a`; only its entity name is known before. -/
structure ClassFacts.ClassicFrom (facts : ClassFacts) (name : String) (a : Annotations) :
    Prop where
  entityName : facts.entityName = name
  discriminator : classicDiscriminator a = .ok facts.discriminator
  cache : classicCache a = .ok facts.cache
  tableName : ∃ table, a.text? "table" = .ok table ∧ facts.tableName = table.getD name
  schema : a.text? "schema" = .ok facts.schema
  catalog : a.text? "catalog" = .ok facts.catalog
  immutable : a.flag "readonly" = .ok facts.immutable
  lazy : a.flag "lazy" = .ok facts.lazy
  batchSize : a.integer? "batchsize" = .ok facts.batchSize
  rowId : a.text? "rowid" = .ok facts.rowId
  optimisticLock : a.text? "optimisticlock" = .ok facts.optimisticLock
  condition : a.text? "where" = .ok facts.condition

/-- Inversion of `ClassFacts.readClassic`. -/
theorem ClassFacts.classicFrom_of_read (h : ClassFacts.readClassic name a = .ok facts) :
    facts.ClassicFrom name a := by
  simp only [ClassFacts.readClassic, bind_eq_ok, pure_eq_ok] at h
  obtain ⟨_, hdiscriminator, _, hcache, table, htable, _, hschema, _, hcatalog, h⟩ := h
  obtain ⟨_, himmutable, _, hlazy, _, hsize, _, hrow, _, hlock, _, hcondition, rfl⟩ := h
  constructor
  case tableName => exact ⟨table, htable, rfl⟩
  all_goals first | rfl | assumption

/-- The facts of a class stand in the structured set `a`, those on its table in the nested set
`table`; only its entity name is known before. -/
structure ClassFacts.ModernFrom (facts : ClassFacts) (name : String) (a : Annotations) :
    Prop where
  entityName : facts.entityName = name
  discriminator : modernDiscriminator a = .ok facts.discriminator
  cache : modernCache a = .ok facts.cache
  tableName : ∃ table, (a.nested "table").text? "name" = .ok table ∧
    facts.tableName = table.getD name
  schema : (a.nested "table").text? "schema" = .ok facts.schema
  catalog : (a.nested "table").text? "catalog" = .ok facts.catalog
  immutable : facts.immutable = a.has "immutable"
  lazy : a.flag "lazy" true = .ok facts.lazy
  batchSize : a.integer? "batchsize" = .ok facts.batchSize
  rowId : a.text? "rowid" = .ok facts.rowId
  optimisticLock : a.text? "optimisticlock" = .ok facts.optimisticLock
  condition : a.text? "where" = .ok facts.condition

/-- Inversion of `ClassFacts.readModern`. -/
theorem ClassFacts.modernFrom_of_read (h : ClassFacts.readModern name a = .ok facts) :
    facts.ModernFrom name a := by
  simp only [ClassFacts.readModern, bind_eq_ok, pure_eq_ok] at h
  obtain ⟨_, hdiscriminator, _, hcache, table, htable, _, hschema, _, hcatalog, h⟩ := h
  obtain ⟨_, hlazy, _, hsize, _, hrow, _, hlock, _, hcondition, rfl⟩ := h
  constructor
  case tableName => exact ⟨table, htable, rfl⟩
  all_goals first | rfl | assumption

/-- The facts of a class carry the name that its descriptor declares. -/
theorem ClassFacts.read_eq_ok (h : ClassFacts.read d = .ok facts) :
    d.entityName = .ok facts.entityName := by
  rw [ClassFacts.read, bind_eq_ok] at h
  obtain ⟨name, hname, hread⟩ := h
  rw [hname]
  cases hdialect : d.dialect with
  | classic =>
    rw [hdialect] at hread
    rw [(ClassFacts.classicFrom_of_read hread).entityName]
  | modern =>
    rw [hdialect] at hread
    rw [(ClassFacts.modernFrom_of_read hread).entityName]

/-- A mapped entity has the name and the datasource that its descriptor declares. -/
theorem MappedEntity.ofDescriptor_eq_ok {fallback : Option String} {e : MappedEntity}
    (h : (MappedEntity.ofDescriptor d fallback).outcome = .ok e) :
    d.entityName = .ok e.entityName ∧ d.datasource fallback = .ok e.datasource := by
  obtain ⟨parts, hread, rfl⟩ := MappedEntity.ofDescriptor_eq_ok_iff.mp h
  exact ⟨ClassFacts.read_eq_ok hread.facts, hread.datasource⟩

end OrmMapping
