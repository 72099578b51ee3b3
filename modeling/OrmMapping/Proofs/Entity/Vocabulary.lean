import OrmMapping.Entity.ClassFacts
import OrmMapping.Proofs.Property.Vocabulary

/-!
# Facts on classes in two vocabularies

What can be told of a class as a whole, under which key the flat vocabulary has it and in which set
the structured one does. Two things are told alike in both: whether rows may change, and the
discriminator, which is a set of its own. From the table come two renditions of the same class.

* `ClassFact`, `ToldClass`: what both vocabularies can say of a class;
* `ToldClass.classic`, `ToldClass.modern`: the renditions, as loaded, with one property that either
  vocabulary takes for the identifier;
* `get?_classic`, `get?_modern`, `nested_modern`: what stands where.
-/

namespace OrmMapping

/-! ## The table -/

/-- The facts on a class that each have a value of their own. -/
inductive ClassFact where
  | entityName
  | table | schema | catalog
  | lazy | batchSize | rowId | optimisticLock | condition
  | dynamicInsert | dynamicUpdate | selectBeforeUpdate
  | datasource
  | cacheUse | cacheRegion | cacheIncluded
deriving DecidableEq, Repr

/-- Where the structured vocabulary keeps a fact: on the class itself, or in a nested set. -/
inductive ClassPlace where
  | own
  | entity
  | table
  | cache
deriving DecidableEq, Repr

namespace ClassPlace

/-- All places. -/
def all : List ClassPlace := [.own, .entity, .table, .cache]

/-- The list of places is complete. -/
theorem mem_all (place : ClassPlace) : place ∈ all := by
  cases place <;> decide

end ClassPlace

namespace ClassFact

/-- All facts. -/
def all : List ClassFact :=
  [.entityName, .table, .schema, .catalog, .lazy, .batchSize, .rowId, .optimisticLock, .condition,
    .dynamicInsert, .dynamicUpdate, .selectBeforeUpdate, .datasource, .cacheUse, .cacheRegion,
    .cacheIncluded]

/-- The list of facts is complete. -/
theorem mem_all (fact : ClassFact) : fact ∈ all := by
  cases fact <;> decide

/-- The key in the flat vocabulary. -/
def flatKey : ClassFact → String
  | .entityName => "entityname"
  | .table => "table"
  | .schema => "schema"
  | .catalog => "catalog"
  | .lazy => "lazy"
  | .batchSize => "batchsize"
  | .rowId => "rowid"
  | .optimisticLock => "optimisticlock"
  | .condition => "where"
  | .dynamicInsert => "dynamicinsert"
  | .dynamicUpdate => "dynamicupdate"
  | .selectBeforeUpdate => "selectbeforeupdate"
  | .datasource => "datasource"
  | .cacheUse => "cacheuse"
  | .cacheRegion => "cachename"
  | .cacheIncluded => "cacheinclude"

/-- The set that holds the fact in the structured vocabulary. -/
def place : ClassFact → ClassPlace
  | .entityName => .entity
  | .table | .schema | .catalog => .table
  | .cacheUse | .cacheRegion | .cacheIncluded => .cache
  | _ => .own

/-- The key inside that set, most often the flat one. -/
def nestedKey : ClassFact → String
  | .entityName => "name"
  | .table => "name"
  | .cacheUse => "strategy"
  | .cacheRegion => "region"
  | .cacheIncluded => "include"
  | fact => fact.flatKey

end ClassFact

/-! ## Renditions -/

/-- The annotations that mark a property as the identifier in both vocabularies. -/
def idMarks : Keyed Value :=
  [("fieldtype", .str "id"), ("id", .bool true)]

/-- What is told of a class: the values of its facts, whether its rows never change, and the set of
its discriminator. -/
structure ToldClass where
  values : ClassFact → Option Value
  immutable : Bool
  discriminator : Option (Keyed Value)

namespace ToldClass

variable (told : ToldClass)

/-- The mark of rows that never change. -/
def immutableMark : Option Value :=
  if told.immutable then some (.bool true) else none

/-- The cells of the facts that the structured vocabulary keeps in one place. -/
def cellsAt (place : ClassPlace) : Cells :=
  (ClassFact.all.filter fun fact => fact.place == place).map fun fact =>
    (fact.nestedKey, told.values fact)

/-- The cells of the flat rendition. -/
def classicCells : Cells :=
  ("persistent", some (.bool true)) :: ("readonly", told.immutableMark) ::
    ("discriminator", told.discriminator.map .map) ::
    ClassFact.all.map fun fact => (fact.flatKey, told.values fact)

/-- The cells of the structured rendition. -/
def modernCells : Cells :=
  ("entity", some (.map (present (told.cellsAt .entity)))) ::
    ("immutable", told.immutableMark) :: ("discriminator", told.discriminator.map .map) ::
    ("table", nestedSet (told.cellsAt .table)) :: ("cache", nestedSet (told.cellsAt .cache)) ::
    told.cellsAt .own

/-- The annotations of the class in the flat vocabulary, as they are loaded. -/
def classicEntries : Keyed Value :=
  foldEntries (present told.classicCells)

/-- The annotations of the class in the structured vocabulary, as they are loaded. -/
def modernEntries : Keyed Value :=
  foldEntries (present told.modernCells)

end ToldClass

/-- A class that extends no other, with one property, which either vocabulary takes for the
identifier. -/
def markedClass (entries : Keyed Value) (name id : String) : Descriptor :=
  ⟨⟨name, entries, [⟨id, foldEntries idMarks⟩]⟩, []⟩

namespace ToldClass

/-- The class in the flat vocabulary. -/
def classic (told : ToldClass) (name id : String) : Descriptor :=
  markedClass told.classicEntries name id

/-- The class in the structured vocabulary. -/
def modern (told : ToldClass) (name id : String) : Descriptor :=
  markedClass told.modernEntries name id

/-! ## What stands under a key -/

variable (told : ToldClass)

/-- The keys of the flat rendition. -/
def classicKeys : List String :=
  "persistent" :: "readonly" :: "discriminator" :: ClassFact.all.map ClassFact.flatKey

/-- The keys in one place of the structured rendition. -/
def keysAt (place : ClassPlace) : List String :=
  (ClassFact.all.filter fun fact => fact.place == place).map ClassFact.nestedKey

/-- The keys of the structured rendition. -/
def modernKeys : List String :=
  "entity" :: "immutable" :: "discriminator" :: "table" :: "cache" :: keysAt .own

/-- The table has no key twice in one place, and all its keys are in lower case. -/
theorem foldedKeys_table : FoldedKeys classicKeys ∧ FoldedKeys modernKeys ∧
    ∀ place ∈ ClassPlace.all, FoldedKeys (keysAt place) := by
  decide +kernel

/-- The flat cells have the keys `classicKeys`, whatever is told. -/
theorem classicCells_keys : told.classicCells.map (·.1) = classicKeys := by
  simp [classicCells, classicKeys, Function.comp_def]

/-- The cells of one place have the keys `keysAt place`, whatever is told. -/
theorem cellsAt_keys (place : ClassPlace) : (told.cellsAt place).map (·.1) = keysAt place := by
  simp [cellsAt, keysAt, Function.comp_def]

/-- The structured cells have the keys `modernKeys`, whatever is told. -/
theorem modernCells_keys : told.modernCells.map (·.1) = modernKeys := by
  simp [modernCells, modernKeys, cellsAt_keys]

/-- The flat cells have different keys, all in lower case. -/
theorem foldedKeys_classicCells : FoldedKeys (told.classicCells.map (·.1)) := by
  rw [classicCells_keys]
  exact foldedKeys_table.1

/-- The structured cells have different keys, all in lower case. -/
theorem foldedKeys_modernCells : FoldedKeys (told.modernCells.map (·.1)) := by
  rw [modernCells_keys]
  exact foldedKeys_table.2.1

/-- The cells of one place have different keys, all in lower case. -/
theorem foldedKeys_cellsAt (place : ClassPlace) :
    FoldedKeys ((told.cellsAt place).map (·.1)) := by
  rw [cellsAt_keys]
  exact foldedKeys_table.2.2 place place.mem_all

/-- The facts in one place, read as a nested set is. -/
def setAt (place : ClassPlace) : Keyed Value :=
  foldEntries (present (told.cellsAt place))

variable {told} {key : String} {value : Option Value} {place : ClassPlace}

/-- A flat cell is found under its key, with its value as it is loaded. -/
theorem get?_classic (h : (key, value) ∈ told.classicCells) :
    told.classicEntries.get? key = value.map Value.foldKeys :=
  get?_foldEntries_present told.foldedKeys_classicCells h

/-- The flat rendition has nothing under any other key. -/
theorem get?_classic_of_not_mem (h : key ∉ classicKeys) :
    told.classicEntries.get? key = none :=
  get?_foldEntries_present_of_not_mem told.foldedKeys_classicCells (by rwa [classicCells_keys])

/-- A structured cell is found under its key, with its value as it is loaded. -/
theorem get?_modern (h : (key, value) ∈ told.modernCells) :
    told.modernEntries.get? key = value.map Value.foldKeys :=
  get?_foldEntries_present told.foldedKeys_modernCells h

/-- The structured rendition has nothing under any other key. -/
theorem get?_modern_of_not_mem (h : key ∉ modernKeys) :
    told.modernEntries.get? key = none :=
  get?_foldEntries_present_of_not_mem told.foldedKeys_modernCells (by rwa [modernCells_keys])

/-- Every fact stands under its flat key in the flat rendition. -/
theorem get?_classic_fact (fact : ClassFact) :
    told.classicEntries.get? fact.flatKey = (told.values fact).map Value.foldKeys := by
  refine get?_classic ?_
  -- the facts come after the two marks and the discriminator
  exact .tail _ (.tail _ (.tail _ (List.mem_map.mpr ⟨fact, fact.mem_all, rfl⟩)))

/-- A fact on the class itself stands under its nested key in the structured rendition. -/
theorem get?_modern_own {fact : ClassFact} (h : fact.place = .own) :
    told.modernEntries.get? fact.nestedKey = (told.values fact).map Value.foldKeys := by
  -- the facts on the class itself come after all nested sets
  refine get?_modern (.tail _ (.tail _ (.tail _ (.tail _ (.tail _ ?_)))))
  exact List.mem_map.mpr ⟨fact, List.mem_filter.mpr ⟨fact.mem_all, beq_iff_eq.mpr h⟩, rfl⟩

/-- The set of the discriminator stands under one key in both renditions. -/
theorem get?_discriminator :
    told.classicEntries.get? "discriminator" =
        told.discriminator.map (fun inner => .map (foldEntries inner)) ∧
      told.modernEntries.get? "discriminator" =
        told.discriminator.map fun inner => .map (foldEntries inner) := by
  have hclassic : told.classicEntries.get? "discriminator" = _ :=
    get?_classic (.tail _ (.tail _ List.mem_cons_self))
  have hmodern : told.modernEntries.get? "discriminator" = _ :=
    get?_modern (.tail _ (.tail _ List.mem_cons_self))
  rw [hclassic, hmodern, Option.map_map]
  exact ⟨rfl, rfl⟩

/-- The mark of rows that never change stands under `readonly` in the flat rendition and under
`immutable` in the structured one. -/
theorem get?_immutableMark :
    told.classicEntries.get? "readonly" = told.immutableMark ∧
      told.modernEntries.get? "immutable" = told.immutableMark := by
  -- a flag has no keys to fold
  have hmark : told.immutableMark.map Value.foldKeys = told.immutableMark := by
    unfold immutableMark
    split <;> rfl
  have hclassic : told.classicEntries.get? "readonly" = _ :=
    get?_classic (.tail _ List.mem_cons_self)
  have hmodern : told.modernEntries.get? "immutable" = _ :=
    get?_modern (.tail _ List.mem_cons_self)
  rw [hclassic, hmodern, hmark]
  exact ⟨rfl, rfl⟩

/-- The structured rendition has a set for the cache exactly when some fact of the cache is told. -/
theorem isSome_cache : (told.modernEntries.get? "cache").isSome = true ↔
    ∃ fact : ClassFact, fact.place = .cache ∧ (told.values fact).isSome = true := by
  have hget : told.modernEntries.get? "cache" = (nestedSet (told.cellsAt .cache)).map _ :=
    get?_modern (.tail _ (.tail _ (.tail _ (.tail _ List.mem_cons_self))))
  rw [hget, Option.isSome_map, isSome_nestedSet]
  simp [cellsAt, ClassFact.mem_all]

/-- The set of a place has each fact that belongs there under its nested key. -/
theorem get?_setAt (fact : ClassFact) :
    (told.setAt fact.place).get? fact.nestedKey = (told.values fact).map Value.foldKeys :=
  get?_foldEntries_present (told.foldedKeys_cellsAt _)
    (List.mem_map.mpr ⟨fact, List.mem_filter.mpr ⟨fact.mem_all, beq_self_eq_true _⟩, rfl⟩)

/-- The set of a place has nothing under any other key. -/
theorem get?_setAt_of_not_mem (h : key ∉ keysAt place) : (told.setAt place).get? key = none :=
  get?_foldEntries_present_of_not_mem (told.foldedKeys_cellsAt _) (by rwa [cellsAt_keys])

/-- The set that is nested under `key` in the structured rendition is that of the `place` whose
cells stand there, whatever the `shorthand`. -/
theorem nested_modern {a : Annotations} (shorthand : String) (ha : a.entries = told.modernEntries)
    (h : (key, nestedSet (told.cellsAt place)) ∈ told.modernCells) :
    (a.nested key shorthand).entries = told.setAt place := by
  rw [Annotations.nested, Annotations.value, ha, get?_modern h]
  exact nestedEntries_nestedSet shorthand (told.foldedKeys_cellsAt place)

/-- The set nested under `table` holds the facts on the table. -/
theorem nested_table {a : Annotations} (ha : a.entries = told.modernEntries) :
    (a.nested "table").entries = told.setAt .table :=
  nested_modern "name" ha (.tail _ (.tail _ (.tail _ List.mem_cons_self)))

/-- The set nested under `cache` holds the facts on the cache. -/
theorem nested_cache {a : Annotations} (ha : a.entries = told.modernEntries) :
    (a.nested "cache" "strategy").entries = told.setAt .cache :=
  nested_modern "strategy" ha (.tail _ (.tail _ (.tail _ (.tail _ List.mem_cons_self))))

/-- The set nested under `entity` holds the entity name; it is there even when it is empty. -/
theorem nested_entity {a : Annotations} (ha : a.entries = told.modernEntries) :
    (a.nested "entity").entries = told.setAt .entity := by
  -- this set is written out even when nothing is told, since it is what makes the class an entity
  have hget : told.modernEntries.get? "entity" = some (.map (told.setAt .entity)) :=
    get?_modern List.mem_cons_self
  rw [Annotations.nested, Annotations.value, ha, hget]
  rfl

end ToldClass

end OrmMapping
